import UyuniAgent.Agent.Orphans

/-!
# Suppressed anomalies and firing alerts

Inside the cooldown `reconcile` leaves an observed anomaly out of its report,
trusting that the alert its row stores is still firing.  A severity change
resolves that alert before it sends the replacement.  When the replacement is
then not delivered, the row keeps the resolved alert, and a return to the old
severity is suppressed although nothing is firing.
-/

namespace UyuniAgent.Agent

open Incident Queue Transition

variable {F : Type} [DecidableEq F]

/-! ## The property and its condition -/

/-- What a reconciliation suppresses is firing: an observed, active incident
that it does not report, and for which no work is pending or in flight, stores
an alert that is firing. -/
def SuppressesOnlyFiring (cfg : AgentSettings F) (s : AgentState F)
    (e : AgentEvent) : Prop :=
  ∀ m now anomalies, e = .reconcile m now →
    s.polls.get? m = some (.reconciling anomalies) →
    ∀ anomaly ∈ anomalies, ∀ row,
      s.table.get? (cfg.store.scheme.incidentFingerprint anomaly) = some row →
      row.status = .active →
      (∀ incident ∈ (Incident.reconcile cfg.store s.table m anomalies
          now).1.firing,
        incident.fingerprint ≠
          cfg.store.scheme.incidentFingerprint anomaly) →
      Idle s.queue (cfg.store.scheme.incidentFingerprint anomaly) →
      ∃ payload, row.payloadJson = some payload ∧
        isFiring s.alertmanager payload.labels = true

/-- The job's snapshot names the labels of the alert its row stores. -/
def ReplacesStored (s : AgentState F) (job : Job F) : Prop :=
  ∃ row stored previous, s.table.get? job.fingerprint = some row ∧
    row.payloadJson = some stored ∧
    job.work.firing.previousPayload = some previous ∧
    previous.labels = stored.labels

/-- A transition that resolved the stored alert is followed through: the
incident is still actionable when its answer is handled, and the replacement
is accepted. -/
def FollowsThrough (s : AgentState F) : AgentEvent → Prop
  | .finishTransition n => ∀ job payload, s.workers.get? n = some job →
      job.phase = .transitionAnswered payload true → ReplacesStored s job →
      job.actionable s.table = true
  | .answerPost n accepted _ => ∀ job payload previous,
      s.workers.get? n = some job → job.phase = .firingSent payload →
      job.work.firing.previousPayload = some previous →
      previous.labels ≠ payload.labels → ReplacesStored s job →
      accepted = true
  | _ => True

/-! ## The invariant -/

/-- The job resolved these labels and has not stored a replacement yet. -/
def Job.Replacing (job : Job F) (labels : Labels F) : Prop :=
  ∃ payload previous,
    (job.phase = .transitionAnswered payload true ∨
      job.phase = .firingSent payload ∨
      job.phase = .firingAnswered payload true) ∧
    job.work.firing.previousPayload = some previous ∧
    previous.labels = labels ∧ previous.labels ≠ payload.labels

/-- The minion's coroutine has resolved the incident's alert and is about to
close the incident. -/
def PollPhase.Closing (phase : PollPhase F) (f : F) : Prop :=
  ∃ incident resolved firing,
    phase = .resolutionAnswered incident true resolved firing ∧
      incident.fingerprint = f

/-- The stored labels of an incident may be resolved for the moment. -/
def Excused (s : AgentState F) (f : F) (labels : Labels F) : Prop :=
  (∃ n job, s.workers.get? n = some job ∧ job.fingerprint = f ∧
      job.Replacing labels) ∨
    ∃ m phase, s.polls.get? m = some phase ∧ phase.Closing f

structure StoredFiring (s : AgentState F) : Prop where
  stored : ∀ f row payload, s.table.get? f = some row →
    row.status = .active → row.payloadJson = some payload →
    isFiring s.alertmanager payload.labels = true ∨
      Excused s f payload.labels
  delivered : ∀ n job payload, s.workers.get? n = some job →
    job.phase = .firingAnswered payload true →
    isFiring s.alertmanager payload.labels = true

section Frames

variable {cfg : AgentSettings F} {s s' : AgentState F}

omit [DecidableEq F] in
theorem Excused.setPoll {f : F} {labels : Labels F} {m : String}
    {phase phase' : PollPhase F} (h : Excused s f labels)
    (hpoll : s.polls.get? m = some phase)
    (hclosing : phase.Closing f → phase'.Closing f) :
    Excused { s with polls := s.polls.set m phase' } f labels := by
  rcases h with hjob | ⟨m', phase₀, hphase₀, hclosing₀⟩
  · exact Or.inl hjob
  · by_cases hm : m' = m
    · subst hm
      obtain rfl := Option.some.inj (hpoll.symm.trans hphase₀)
      exact Or.inr ⟨m', phase', OrderedDict.get?_set_self, hclosing hclosing₀⟩
    · exact Or.inr ⟨m', phase₀,
        (OrderedDict.get?_set_of_ne hm).trans hphase₀, hclosing₀⟩

omit [DecidableEq F] in
theorem Excused.setJob {f : F} {labels : Labels F} {n : ℕ} {job : Job F}
    (h : Excused s f labels) (hjob : s.workers.get? n = some job)
    (phase : JobPhase F)
    (hreplacing : job.fingerprint = f → job.Replacing labels →
      ({ job with phase := phase } : Job F).Replacing labels) :
    Excused (s.setJob n job phase) f labels := by
  rcases h with ⟨n', job', hjob', hf, hreplacing'⟩ | hpoll
  · by_cases hn : n' = n
    · subst hn
      obtain rfl := Option.some.inj (hjob.symm.trans hjob')
      exact Or.inl ⟨n', _, OrderedDict.get?_set_self, hf,
        hreplacing hf hreplacing'⟩
    · exact Or.inl ⟨n', job', (OrderedDict.get?_set_of_ne hn).trans hjob', hf,
        hreplacing'⟩
  · exact Or.inr hpoll

omit [DecidableEq F] in
theorem Job.not_replacing (job : Job F)
    (hphase : ∀ payload, job.phase ≠ .transitionAnswered payload true ∧
      job.phase ≠ .firingSent payload ∧
      job.phase ≠ .firingAnswered payload true) (labels : Labels F) :
    ¬job.Replacing labels := by
  rintro ⟨payload, previous, hanswered | hsent | hdelivered, -⟩
  · exact (hphase payload).1 hanswered
  · exact (hphase payload).2.1 hsent
  · exact (hphase payload).2.2 hdelivered

omit [DecidableEq F] in
theorem not_closing_acting {f : F} {resolved : List (IncidentRecord F)}
    {firing : List (FiringIncident F)} :
    ¬(PollPhase.acting resolved firing).Closing f := by
  rintro ⟨_, _, _, hphase, -⟩
  cases hphase

/-- A worker's step that posts nothing and stores nothing. -/
theorem StoredFiring.setJob (h : StoredFiring s) {n : ℕ} {job : Job F}
    {phase : JobPhase F} (hjob : s.workers.get? n = some job)
    (hafter : ∀ payload, phase ≠ .firingAnswered payload true)
    (hreplacing : ∀ row stored, s.table.get? job.fingerprint = some row →
      row.payloadJson = some stored → job.Replacing stored.labels →
      ({ job with phase := phase } : Job F).Replacing stored.labels) :
    StoredFiring (s.setJob n job phase) := by
  constructor
  · intro f row payload hrow hactive hpayload
    rcases h.stored f row payload hrow hactive hpayload with hlit | hexcused
    · exact Or.inl hlit
    · refine Or.inr (hexcused.setJob hjob phase ?_)
      rintro rfl
      exact hreplacing row payload hrow hpayload
  · intro n' job' payload hjob' hdelivered
    rcases OrderedDict.get?_set_cases hjob' with ⟨-, rfl⟩ | ⟨-, hold⟩
    · exact absurd hdelivered (hafter payload)
    · exact h.delivered n' job' payload hold hdelivered

/-- A step of a worker whose job replaces no alert. -/
theorem StoredFiring.setIdleJob (h : StoredFiring s) {n : ℕ} {job : Job F}
    {phase : JobPhase F} (hjob : s.workers.get? n = some job)
    (hidle : ∀ labels, ¬job.Replacing labels)
    (hafter : ∀ payload, phase ≠ .firingAnswered payload true) :
    StoredFiring (s.setJob n job phase) := by
  apply h.setJob hjob hafter
  intro row stored _ _ hreplacing
  exact absurd hreplacing (hidle stored.labels)

/-- A step of a minion's coroutine that posts nothing and closes nothing. -/
theorem StoredFiring.setPoll (h : StoredFiring s) {m : String}
    {phase phase' : PollPhase F} (hpoll : s.polls.get? m = some phase)
    (hclosing : ∀ f, phase.Closing f → phase'.Closing f) :
    StoredFiring { s with polls := s.polls.set m phase' } := by
  refine ⟨?_, h.delivered⟩
  intro f row payload hrow hactive hpayload
  exact (h.stored f row payload hrow hactive hpayload).imp id fun hexcused =>
    hexcused.setPoll hpoll (hclosing f)

theorem StoredFiring.setQueue (h : StoredFiring s)
    (queue : InvestigationQueue F (InvestigationWork F)) :
    StoredFiring { s with queue := queue } :=
  ⟨h.stored, h.delivered⟩

/-- Closing an incident keeps the invariant for the others. -/
theorem StoredFiring.close (h : StoredFiring s) {m : String} {f : F} {now : ℚ}
    {phase phase' : PollPhase F} (hpoll : s.polls.get? m = some phase)
    (hclosing : ∀ f', phase.Closing f' → f' = f) :
    StoredFiring { s with
      table := markResolved s.table f now
      polls := s.polls.set m phase' } := by
  refine ⟨?_, h.delivered⟩
  intro f' row payload hrow hactive hpayload
  have hne : f' ≠ f := by
    rintro rfl
    rw [(markResolved_get?_self hrow).1] at hactive
    cases hactive
  rw [markResolved_get?_of_ne hne] at hrow
  refine (h.stored f' row payload hrow hactive hpayload).imp id ?_
  intro hexcused
  have hmoved : Excused { s with polls := s.polls.set m phase' } f'
      payload.labels :=
    hexcused.setPoll hpoll fun hclosing' => absurd (hclosing f' hclosing') hne
  exact hmoved

end Frames

/-! ## Every step that follows through keeps the invariant -/

section Step

variable {cfg : AgentSettings F} {s s' : AgentState F}

theorem StoredFiring.reconcile (h : StoredFiring s) (hc : Coherent cfg s)
    {m : String} {anomalies : List Anomaly}
    (hpoll : s.polls.get? m = some (.reconciling anomalies)) (now : ℚ)
    {phase : PollPhase F} :
    StoredFiring { s with
      table := (Incident.reconcile cfg.store s.table m anomalies now).2
      polls := s.polls.set m phase } := by
  have hcarries : ∀ a ∈ anomalies, a.minionId = m := hc.poll_open m _ hpoll
  refine ⟨?_, h.delivered⟩
  intro f row payload hrow hactive hpayload
  have hcase := reconcile_row hc.keyed hcarries now f
  rw [hrow] at hcase
  generalize hbefore : s.table.get? f = row₀? at hcase
  cases hcase with
  | continues row₀ _ hcontinues =>
      refine (h.stored f row₀ payload hbefore
        (hcontinues.status.symm.trans hactive)
        (hcontinues.payloadJson.symm.trans hpayload)).imp id ?_
      intro hexcused
      have hmoved : Excused { s with polls := s.polls.set m phase } f
          payload.labels := by
        refine hexcused.setPoll hpoll ?_
        rintro ⟨_, _, _, hphase, -⟩
        cases hphase
      exact hmoved
  | opened _ anomaly _ _ => cases hpayload

/-- Alertmanager answers the resolution of an incident. -/
theorem StoredFiring.answerResolution (h : StoredFiring s)
    (hw : WellFormed cfg s) {m : String} {incident : IncidentRecord F}
    {resolution : AlertPayload F} {resolved : List (IncidentRecord F)}
    {firing : List (FiringIncident F)} {accepted : Bool} {now : ℚ}
    (hpoll : s.polls.get? m =
      some (.resolutionSent incident resolution resolved firing)) :
    StoredFiring { s with
      alertmanager := post accepted resolution now s.alertmanager
      polls := s.polls.set m
        (.resolutionAnswered incident accepted resolved firing) } := by
  obtain ⟨-, hidle⟩ := hw.coherent.poll_open m _ hpoll
  obtain ⟨-, p, -, haddressed, hlabels, -⟩ := hw.addressed.poll m _ hpoll
  have hother : ∀ f payload, AddressedTo f payload →
      f ≠ incident.fingerprint → resolution.labels ≠ payload.labels := by
    intro f payload hpayload hne
    rw [hlabels]
    exact haddressed.labels_ne hpayload (Ne.symm hne)
  constructor
  · intro f row payload hrow hactive hpayload
    rcases accepted with _ | _
    · refine (h.stored f row payload hrow hactive hpayload).imp id ?_
      intro hexcused
      refine hexcused.setPoll hpoll ?_
      rintro ⟨_, _, _, hphase, -⟩
      cases hphase
    · by_cases hf : f = incident.fingerprint
      · exact Or.inr (Or.inr ⟨m, _, OrderedDict.get?_set_self, incident,
          resolved, firing, rfl, hf.symm⟩)
      · have hne := hother f payload
          ((hw.addressed.row f row hrow).payload payload hpayload) hf
        rw [isFiring_post_of_ne hne]
        refine (h.stored f row payload hrow hactive hpayload).imp id ?_
        intro hexcused
        refine hexcused.setPoll hpoll ?_
        rintro ⟨_, _, _, hphase, -⟩
        cases hphase
  · intro n job payload hjob hdelivered
    have hphase := hw.addressed.phase n job hjob
    rw [hdelivered] at hphase
    have hne := hother job.fingerprint payload hphase.1
      (hw.coherent.not_job_of_idle hidle hjob)
    rw [isFiring_post_of_ne hne]
    exact h.delivered n job payload hjob hdelivered

theorem StoredFiring.pop (h : StoredFiring s) {n : ℕ} {job : Job F}
    {queue : InvestigationQueue F (InvestigationWork F)}
    (hfree : s.workers.get? n = none) (hphase : job.phase = .popped) :
    StoredFiring { s with
      queue := queue
      workers := s.workers.set n job } := by
  have hkept : ∀ n' job', s.workers.get? n' = some job' →
      (s.workers.set n job).get? n' = some job' := by
    intro n' job' hjob'
    have hne : n' ≠ n := by
      rintro rfl
      rw [hfree] at hjob'
      cases hjob'
    rw [OrderedDict.get?_set_of_ne hne]
    exact hjob'
  constructor
  · intro f row payload hrow hactive hpayload
    refine (h.stored f row payload hrow hactive hpayload).imp id ?_
    rintro (⟨n', job', hjob', hreplacing⟩ | hpoll)
    · exact Or.inl ⟨n', job', hkept n' job' hjob', hreplacing⟩
    · exact Or.inr hpoll
  · intro n' job' payload hjob' hdelivered
    rcases OrderedDict.get?_set_cases hjob' with ⟨-, rfl⟩ | ⟨-, hold⟩
    · rw [hphase] at hdelivered
      cases hdelivered
    · exact h.delivered n' job' payload hold hdelivered

theorem StoredFiring.release (h : StoredFiring s) {n : ℕ} {job : Job F}
    {outcome : JobOutcome}
    {queue : InvestigationQueue F (InvestigationWork F)}
    (hjob : s.workers.get? n = some job)
    (hphase : job.phase = .finished outcome) :
    StoredFiring { s with
      queue := queue
      workers := s.workers.erase n } := by
  constructor
  · intro f row payload hrow hactive hpayload
    refine (h.stored f row payload hrow hactive hpayload).imp id ?_
    rintro (⟨n', job', hjob', hf, hreplacing⟩ | hpoll)
    · have hne : n' ≠ n := by
        rintro rfl
        obtain rfl := Option.some.inj (hjob.symm.trans hjob')
        exact job.not_replacing (by simp [hphase]) payload.labels hreplacing
      exact Or.inl ⟨n', job', (OrderedDict.get?_erase_of_ne hne).trans hjob',
        hf, hreplacing⟩
    · exact Or.inr hpoll
  · intro n' job' payload hjob' hdelivered
    obtain ⟨-, hold⟩ := OrderedDict.get?_erase_cases hjob'
    exact h.delivered n' job' payload hold hdelivered

/-- Alertmanager answers a job's transition. -/
theorem StoredFiring.answerTransition (h : StoredFiring s)
    (hw : WellFormed cfg s) {n : ℕ} {job : Job F}
    {resolution payload : AlertPayload F} {accepted : Bool} {now : ℚ}
    (hjob : s.workers.get? n = some job)
    (hsent : job.phase = .transitionSent resolution payload) :
    StoredFiring
      { s.setJob n job (.transitionAnswered payload accepted) with
        alertmanager := post accepted resolution now s.alertmanager } := by
  have hphase := hw.addressed.phase n job hjob
  rw [hsent] at hphase
  obtain ⟨-, -, previous, hprevious, hchanged, hlabels, -⟩ := hphase
  have haddressed := hw.addressed.job n job hjob previous hprevious
  have hidle := job.not_replacing (by simp [hsent])
  constructor
  · intro f row stored hrow hactive hstored
    have hexcuse : Excused s f stored.labels → Excused
        { s.setJob n job (.transitionAnswered payload accepted) with
          alertmanager := post accepted resolution now s.alertmanager } f
        stored.labels := by
      intro hexcused
      have hmoved := hexcused.setJob hjob (.transitionAnswered payload accepted)
        fun _ hreplacing => absurd hreplacing (hidle _)
      exact hmoved
    by_cases hsame : resolution.labels = stored.labels
    · rcases accepted with _ | _
      · exact (h.stored f row stored hrow hactive hstored).imp id hexcuse
      · -- the transition resolved the stored alert, and this job replaces it
        have hf : job.fingerprint = f := by
          by_contra hne
          have hdiffer := haddressed.labels_ne
            ((hw.addressed.row f row hrow).payload stored hstored) hne
          exact hdiffer (hlabels.symm.trans hsame)
        exact Or.inr (Or.inl ⟨n, _, OrderedDict.get?_set_self, hf, payload,
          previous, Or.inl rfl, hprevious, hlabels.symm.trans hsame, hchanged⟩)
    · rw [isFiring_post_of_ne hsame]
      exact (h.stored f row stored hrow hactive hstored).imp id hexcuse
  · intro n' job' payload' hjob' hdelivered
    rcases OrderedDict.get?_set_cases hjob' with ⟨-, rfl⟩ | ⟨hn, hold⟩
    · cases hdelivered
    · have hphase' := hw.addressed.phase n' job' hold
      rw [hdelivered] at hphase'
      have hne : job.fingerprint ≠ job'.fingerprint := fun heq =>
        hn (hw.coherent.job_unique n' n job' job hold hjob heq.symm)
      have hdiffer : resolution.labels ≠ payload'.labels := by
        rw [hlabels]
        exact haddressed.labels_ne hphase'.1 hne
      rw [isFiring_post_of_ne hdiffer]
      exact h.delivered n' job' payload' hold hdelivered

/-- Alertmanager accepts a job's firing alert. -/
theorem StoredFiring.acceptFiring (h : StoredFiring s) (hw : WellFormed cfg s)
    {n : ℕ} {job : Job F} {payload : AlertPayload F} {now : ℚ}
    (hjob : s.workers.get? n = some job)
    (hsent : job.phase = .firingSent payload) :
    StoredFiring
      { s.setJob n job (.firingAnswered payload true) with
        alertmanager := post true payload now s.alertmanager } := by
  have hphase := hw.addressed.phase n job hjob
  rw [hsent] at hphase
  have hlit : ∀ labels, isFiring s.alertmanager labels = true →
      isFiring (post true payload now s.alertmanager) labels = true := by
    intro labels hlabels
    by_cases hsame : payload.labels = labels
    · rw [← hsame, isFiring_post_self, hphase.1.endsAt]
      rfl
    · rwa [isFiring_post_of_ne hsame]
  constructor
  · intro f row stored hrow hactive hstored
    refine (h.stored f row stored hrow hactive hstored).imp (hlit _) ?_
    intro hexcused
    have hmoved := hexcused.setJob hjob (.firingAnswered payload true)
      (by
        rintro - ⟨new, previous, hphases, hrest⟩
        rcases hphases with hp | hp | hp
        · simp [hsent] at hp
        · obtain rfl := JobPhase.firingSent.inj (hsent.symm.trans hp)
          exact ⟨payload, previous, Or.inr (Or.inr rfl), hrest⟩
        · simp [hsent] at hp)
    exact hmoved
  · intro n' job' payload' hjob' hdelivered
    rcases OrderedDict.get?_set_cases hjob' with ⟨-, rfl⟩ | ⟨-, hold⟩
    · obtain ⟨rfl, -⟩ := JobPhase.firingAnswered.inj hdelivered
      rw [isFiring_post_self, hphase.1.endsAt]
      rfl
    · exact hlit _ (h.delivered n' job' payload' hold hdelivered)

/-- A worker stores the alert it delivered. -/
theorem StoredFiring.store (h : StoredFiring s) (hw : WellFormed cfg s)
    {n : ℕ} {job : Job F} {payload : AlertPayload F} {now : ℚ}
    (hjob : s.workers.get? n = some job)
    (hanswered : job.phase = .firingAnswered payload true) :
    StoredFiring { s.setJob n job (.finished .delivered) with
      table := markEmitted s.table job.work.firing.fingerprint payload now
        (some job.work.firing.startsAt)
      alertmanager := handle job.work.firing.fingerprint now s.alertmanager } := by
  obtain ⟨hkey, m, hopen⟩ := hw.coherent.job_open n job hjob
  rw [hkey]
  constructor
  · intro f row stored hrow hactive hstored
    rw [isFiring_handle]
    by_cases hf : f = job.fingerprint
    · subst hf
      obtain ⟨row₀, -, -, -, -, hafter⟩ :=
        markEmitted_get?_self hopen payload now
      obtain rfl := Option.some.inj (hafter.symm.trans hrow)
      obtain rfl := Option.some.inj hstored
      exact Or.inl (h.delivered n job _ hjob hanswered)
    · rw [markEmitted_get?_of_ne hf] at hrow
      refine (h.stored f row stored hrow hactive hstored).imp id ?_
      intro hexcused
      have hmoved := hexcused.setJob hjob (.finished .delivered)
        fun heq _ => absurd heq.symm hf
      exact hmoved
  · intro n' job' payload' hjob' hdelivered
    rw [isFiring_handle]
    rcases OrderedDict.get?_set_cases hjob' with ⟨-, rfl⟩ | ⟨-, hold⟩
    · cases hdelivered
    · exact h.delivered n' job' payload' hold hdelivered

theorem StoredFiring.startCycle (h : StoredFiring s)
    (hnone : s.polls.entries = [])
    (polls : OrderedDict String (PollPhase F)) :
    StoredFiring { s with polls := polls } := by
  refine ⟨?_, h.delivered⟩
  intro f row payload hrow hactive hpayload
  refine (h.stored f row payload hrow hactive hpayload).imp id ?_
  rintro (hjob | ⟨m, phase, hpoll, -⟩)
  · exact Or.inl hjob
  · simp [OrderedDict.get?, hnone] at hpoll

/-- A coroutine with nothing left to do ends. -/
theorem StoredFiring.finishMinion (h : StoredFiring s) {m : String}
    {resolved : List (IncidentRecord F)} {firing : List (FiringIncident F)}
    (hpoll : s.polls.get? m = some (.acting resolved firing)) :
    StoredFiring { s with polls := s.polls.erase m } := by
  refine ⟨?_, h.delivered⟩
  intro f row payload hrow hactive hpayload
  refine (h.stored f row payload hrow hactive hpayload).imp id ?_
  rintro (hjob | ⟨m', phase, hphase, hclosing⟩)
  · exact Or.inl hjob
  · have hne : m' ≠ m := by
      rintro rfl
      obtain rfl := Option.some.inj (hpoll.symm.trans hphase)
      exact not_closing_acting hclosing
    exact Or.inr ⟨m', phase,
      (OrderedDict.get?_erase_of_ne hne).trans hphase, hclosing⟩

/-- Alertmanager refuses a job's firing alert, and the job replaces no alert
that is stored. -/
theorem StoredFiring.refuseFiring (h : StoredFiring s)
    {n : ℕ} {job : Job F} {payload : AlertPayload F}
    (hjob : s.workers.get? n = some job)
    (hsent : job.phase = .firingSent payload)
    (hkept : ∀ row stored previous,
      s.table.get? job.fingerprint = some row →
      row.payloadJson = some stored →
      job.work.firing.previousPayload = some previous →
      previous.labels = stored.labels → previous.labels = payload.labels) :
    StoredFiring (s.setJob n job (.firingAnswered payload false)) := by
  refine h.setJob hjob (by simp) fun row stored hrow hstored => ?_
  rintro ⟨new, previous, hphase | hphase | hphase, hprevious, hlabels, hchanged⟩
  · simp [hsent] at hphase
  · obtain rfl := JobPhase.firingSent.inj (hsent.symm.trans hphase)
    exact absurd (hkept row stored previous hrow hstored hprevious hlabels)
      hchanged
  · simp [hsent] at hphase

/-- A job whose transition was answered goes on with its firing alert when its
incident is still actionable. -/
theorem StoredFiring.finishTransition (h : StoredFiring s) {n : ℕ}
    {job : Job F} {payload : AlertPayload F} {accepted : Bool}
    (hjob : s.workers.get? n = some job)
    (hanswered : job.phase = .transitionAnswered payload accepted)
    (hactionable : accepted = true → ∀ row stored previous,
      s.table.get? job.fingerprint = some row →
      row.payloadJson = some stored →
      job.work.firing.previousPayload = some previous →
      previous.labels = stored.labels → job.actionable s.table = true) :
    StoredFiring (s.setJob n job
      (job.afterTransition s.table payload accepted)) := by
  refine h.setJob hjob afterTransition_ne_firing
    fun row stored hrow hstored => ?_
  rintro ⟨new, previous, hphase | hphase | hphase, hprevious, hlabels, hchanged⟩
  · obtain ⟨rfl, rfl⟩ :=
      JobPhase.transitionAnswered.inj (hanswered.symm.trans hphase)
    have hnext : job.afterTransition s.table payload true =
        .firingSent payload := by
      simp [Job.afterTransition,
        hactionable rfl row stored previous hrow hstored hprevious hlabels]
    exact ⟨payload, previous, Or.inr (Or.inl hnext), hprevious, hlabels,
      hchanged⟩
  · simp [hanswered] at hphase
  · simp [hanswered] at hphase

theorem StoredFiring.step (h : StoredFiring s) (hw : WellFormed cfg s)
    {e : AgentEvent} (hfollows : FollowsThrough s e)
    (hstep : agentStep cfg s e = some s') : StoredFiring s' := by
  have hc := hw.coherent
  rcases e with ⟨minions, anomalies⟩ | ⟨m, now⟩ | ⟨m, now⟩ |
    ⟨m, accepted, now⟩ | ⟨m, now⟩ | ⟨m, now⟩ | m | n | ⟨n, now⟩ |
    ⟨n, result, now⟩ | ⟨n, accepted, now⟩ | n | ⟨n, now⟩ | n
  · obtain ⟨hnone, -, rfl⟩ := step_startCycle hstep
    exact h.startCycle hnone _
  · obtain ⟨anomalies, hpoll, rfl⟩ := step_reconcile hstep
    exact h.reconcile hc hpoll now
  · obtain ⟨incident, resolved, firing, hpoll, hcases⟩ :=
      step_resolveNext hstep
    have hopen : ∀ f, ¬(PollPhase.acting (incident :: resolved) firing).Closing
        f := fun _ => not_closing_acting
    rcases hcases with ⟨-, rfl⟩ | ⟨-, -, rfl⟩ | ⟨-, payload, -, rfl⟩
    · exact (h.setPoll hpoll fun f hf => absurd hf (hopen f)).setQueue _
    · exact (h.close hpoll fun f hf => absurd hf (hopen f)).setQueue _
    · exact (h.setPoll hpoll fun f hf => absurd hf (hopen f)).setQueue _
  · obtain ⟨incident, resolution, resolved, firing, hpoll, rfl⟩ :=
      step_answerResolution hstep
    exact h.answerResolution hw hpoll
  · obtain ⟨incident, accepted, resolved, firing, hpoll, rfl⟩ :=
      step_finishResolution hstep
    rcases accepted with _ | _
    · refine h.setPoll hpoll ?_
      rintro f ⟨_, _, _, hphase, -⟩
      cases hphase
    · refine h.close hpoll ?_
      rintro f ⟨_, _, _, hphase, rfl⟩
      rw [(PollPhase.resolutionAnswered.inj hphase).1]
  · obtain ⟨incident, firing, hpoll, rfl⟩ := step_enqueueNext hstep
    exact (h.setPoll hpoll fun f hf =>
      absurd hf not_closing_acting).setQueue _
  · obtain ⟨hpoll, rfl⟩ := step_finishMinion hstep
    exact h.finishMinion hpoll
  · obtain ⟨hfree, item, queue, -, rfl⟩ := step_pop hstep
    exact h.pop hfree rfl
  · obtain ⟨job, hjob, hpopped, rfl⟩ := step_begin hstep
    have hidle := job.not_replacing (by simp [hpopped])
    exact h.setIdleJob hjob hidle begin_ne_firing
  · obtain ⟨job, hjob, hphase, rfl⟩ := step_conclude hstep
    have hidle := job.not_replacing (by simp [hphase])
    exact h.setIdleJob hjob hidle conclude_ne_firing
  · obtain ⟨job, hjob, hcases⟩ := step_answerPost hstep
    rcases hcases with ⟨resolution, payload, hsent, rfl⟩ | ⟨payload, hsent, rfl⟩
    · exact h.answerTransition hw hjob hsent
    · rcases accepted with _ | _
      · apply h.refuseFiring hjob hsent
        intro row stored previous hrow hstored hprevious hlabels
        by_contra hchanged
        have hok := hfollows job payload previous hjob hsent hprevious hchanged
          ⟨row, stored, previous, hrow, hstored, hprevious, hlabels⟩
        cases hok
      · exact h.acceptFiring hw hjob hsent
  · obtain ⟨job, payload, accepted, hjob, hanswered, rfl⟩ :=
      step_finishTransition hstep
    apply h.finishTransition hjob hanswered
    rintro rfl row stored previous hrow hstored hprevious hlabels
    exact hfollows job payload hjob hanswered
      ⟨row, stored, previous, hrow, hstored, hprevious, hlabels⟩
  · obtain ⟨job, payload, hjob, hcases⟩ := step_finishDelivery hstep
    rcases hcases with ⟨hanswered, rfl⟩ | ⟨hanswered, rfl⟩
    · exact h.store hw hjob hanswered
    · have hidle := job.not_replacing (by simp [hanswered])
      exact h.setIdleJob hjob hidle (by simp)
  · obtain ⟨job, outcome, hjob, hfinished, rfl⟩ := step_release hstep
    exact h.release hjob hfinished

/-- In a state with the invariant, what a reconciliation suppresses is
firing. -/
theorem StoredFiring.suppressesOnlyFiring (h : StoredFiring s)
    (hw : WellFormed cfg s) (e : AgentEvent) :
    SuppressesOnlyFiring cfg s e := by
  rintro m now anomalies - hpoll anomaly hanomaly row hrow hactive hsuppressed
    hidle
  have hc := hw.coherent
  have hcarries : ∀ a ∈ anomalies, a.minionId = m := hc.poll_open m _ hpoll
  let f := cfg.store.scheme.incidentFingerprint anomaly
  obtain ⟨selected, hselected⟩ : ∃ selected,
      (preferMoreSevere cfg.store anomalies).get? f = some selected :=
    Option.isSome_iff_exists.mp
      (preferMoreSevere_get?_isSome_iff.mpr ⟨anomaly, hanomaly, rfl⟩)
  obtain ⟨hminion, hkey⟩ :=
    row_minionId_of_observed hc.keyed hcarries hrow hselected
  have hrowMinion : row.minionId = m :=
    (congrArg IdentityKey.minionId hkey).trans hminion
  have hactiveRow : activeRow s.table m f = some row :=
    activeRow_eq_some_iff.mpr
      ⟨hrow, by simp [Row.activeFor, hrowMinion, hactive]⟩
  have hquiet : row.notifiable cfg.store selected now = false := by
    by_contra hnotify
    have hfiring : firingFor cfg.store now (activeRow s.table m f) f selected =
        some ⟨selected, f, row.startsAt, row.payloadJson⟩ := by
      simp only [hactiveRow, firingFor]
      rw [if_pos (by simpa using hnotify)]
    exact hsuppressed _
      (mem_reconcile_firing_iff.mpr ⟨f, selected, hselected, hfiring⟩) rfl
  have hemitted : row.lastEmitted.isSome = true := by
    rcases hlast : row.lastEmitted with _ | t
    · simp [Row.notifiable, hlast] at hquiet
    · rfl
  have haddressed := hw.addressed.row f row hrow
  rw [haddressed.emitted] at hemitted
  obtain ⟨payload, hpayload⟩ := Option.isSome_iff_exists.mp hemitted
  refine ⟨payload, hpayload, ?_⟩
  rcases h.stored f row payload hrow hactive hpayload with hlit |
    ⟨n, job, hjob, hf, -⟩ | ⟨m', phase, hphase, incident, resolved, firing,
      rfl, hf⟩
  · exact hlit
  · exact absurd hf (hc.not_job_of_idle hidle hjob)
  · obtain ⟨hlisted, -⟩ := hc.poll_open m' _ hphase
    obtain ⟨row', hrow', -, hm', -⟩ :=
      hlisted.resolved_open incident List.mem_cons_self
    rw [hf] at hrow'
    obtain rfl := Option.some.inj (hrow.symm.trans hrow')
    obtain rfl : m = m' := hrowMinion.symm.trans hm'
    rw [hpoll] at hphase
    cases hphase

end Step

/-- In every run whose transitions are followed through, every reconciliation
suppresses only what is firing. -/
theorem suppresses_only_firing_of_follows_through
    (cfg : AgentSettings F) (trace : List AgentEvent)
    (hfollows : EveryStep (agentStep cfg) AgentState.initial trace
      FollowsThrough) :
    EveryStep (agentStep cfg) AgentState.initial trace
      (SuppressesOnlyFiring cfg) := by
  have hinitial : StoredFiring (AgentState.initial : AgentState F) := by
    constructor
    · intro f row payload hrow
      cases hrow
    · intro n job payload hjob
      cases hjob
  have hall : EveryState (agentStep cfg) AgentState.initial trace
      fun s => WellFormed cfg s ∧ StoredFiring s :=
    everyState_of_everyStep ⟨WellFormed.initial, hinitial⟩
      (fun _ _ _ h hC hstep =>
        ⟨h.1.step hstep, h.2.step h.1 hC hstep⟩) hfollows
  intro past e hpast s s' hs hstep
  have hpast' : past <+: trace :=
    (List.prefix_append past [e]).trans hpast
  obtain ⟨hw, hstored⟩ := hall past hpast' s hs
  exact hstored.suppressesOnlyFiring hw e

/-- A test of `FollowsThrough`. -/
def testsFollowThrough (s : AgentState F) : AgentEvent → Bool
  | .finishTransition n => (s.workers.get? n).all (·.actionable s.table)
  | .answerPost n accepted _ =>
      accepted || (s.workers.get? n).all
        (·.work.firing.previousPayload.isNone)
  | _ => true

theorem followsThrough_of_test (s : AgentState F) (e : AgentEvent)
    (h : testsFollowThrough s e = true) : FollowsThrough s e := by
  rcases e with _ | _ | _ | _ | _ | _ | _ | _ | _ | _ |
    ⟨n, accepted, now⟩ | n | _ | _
  case finishTransition =>
    intro job payload hjob _ _
    simpa [testsFollowThrough, hjob] using h
  case answerPost =>
    intro job payload previous hjob _ hprevious _ _
    simpa [testsFollowThrough, hjob, hprevious] using h
  all_goals trivial

/-- The escalation is followed through, and what is suppressed is firing. -/
theorem suppresses_only_firing_of_follows_through_escalated :
    (exec (agentStep .plain) AgentState.initial escalatedTrace).isSome ∧
      EveryStep (agentStep .plain) AgentState.initial escalatedTrace
        FollowsThrough ∧
      EveryStep (agentStep .plain) AgentState.initial escalatedTrace
        (SuppressesOnlyFiring .plain) := by
  have hfollows : EveryStep (agentStep .plain) AgentState.initial
      escalatedTrace FollowsThrough :=
    everyStep_of_testSteps followsThrough_of_test (by decide +kernel)
  exact ⟨by decide +kernel, hfollows,
    suppresses_only_firing_of_follows_through .plain escalatedTrace hfollows⟩

/-- The CPU warning is delivered, escalates, and its label set is resolved, but
Alertmanager rejects the critical alert; then the CPU is back at the warning
level. -/
def lostReplacementTrace : List AgentEvent :=
  [.startCycle ["web"] [busyCpu .warning], .reconcile "web" 0,
    .enqueueNext "web" 0, .finishMinion "web",
    .pop 0, .begin 0 1, .conclude 0 (.analysis openQuestion) 2,
    .answerPost 0 true 3, .finishDelivery 0 4, .release 0,
    .startCycle ["web"] [busyCpu .critical], .reconcile "web" 60,
    .enqueueNext "web" 60, .finishMinion "web",
    .pop 0, .begin 0 61, .conclude 0 (.analysis openQuestion) 62,
    .answerPost 0 true 63, .finishTransition 0,
    .answerPost 0 false 64, .finishDelivery 0 65, .release 0,
    .startCycle ["web"] [busyCpu .warning]]

/-- The next reconciliation observes the warning and reports nothing, although
the alert of its active row is not firing. -/
def suppressesSilence (s : AgentState IdentityKey) : Bool :=
  let key := (busyCpu .warning).identityKey
  let next := Incident.reconcile .plain s.table "web" [busyCpu .warning] 120
  s.polls.get? "web" = some (.reconciling [busyCpu .warning]) &&
    next.1.firing.isEmpty && (s.queue.pending.get? key).isNone &&
    decide (key ∉ s.queue.inFlight) &&
    (s.table.get? key).any fun row => row.status = .active &&
      row.payloadJson.any fun payload =>
        !isFiring s.alertmanager payload.labels

/-- A warning is suppressed although no alert of the incident is firing. -/
theorem lost_replacement_is_suppressed :
    ¬∀ (cfg : AgentSettings IdentityKey) (trace : List AgentEvent),
      EveryStep (agentStep cfg) AgentState.initial trace
        (SuppressesOnlyFiring cfg) := by
  intro hall
  have hreached : (exec (agentStep .plain) AgentState.initial
      lostReplacementTrace).any suppressesSilence = true := by decide +kernel
  obtain ⟨s, hs, hsilent⟩ := Option.any_eq_true _ _ |>.mp hreached
  simp only [suppressesSilence, Bool.and_eq_true, decide_eq_true_eq,
    List.isEmpty_iff, Option.isNone_iff_eq_none, Option.any_eq_true,
    Bool.not_eq_true'] at hsilent
  obtain ⟨⟨⟨⟨hpoll, hreport⟩, hpending⟩, hfree⟩, row, hrow, hactive, payload,
    hpayload, hdark⟩ := hsilent
  have hstep : agentStep .plain s (.reconcile "web" 120) = some { s with
      table := (Incident.reconcile .plain s.table "web" [busyCpu .warning]
        120).2
      polls := s.polls.set "web" (.acting
        (Incident.reconcile .plain s.table "web" [busyCpu .warning]
          120).1.resolved
        (Incident.reconcile .plain s.table "web" [busyCpu .warning]
          120).1.firing) } := by
    simp only [agentStep, hpoll]
    rfl
  obtain ⟨payload', hpayload', hlit⟩ :=
    hall .plain (lostReplacementTrace ++ [.reconcile "web" 120])
      lostReplacementTrace (.reconcile "web" 120) (List.prefix_refl _) s _ hs
      hstep "web" 120 [busyCpu .warning] rfl hpoll (busyCpu .warning)
      List.mem_cons_self row hrow hactive
      (by
        intro incident hincident
        have hempty : incident ∈ ([] : List (FiringIncident IdentityKey)) :=
          hreport ▸ hincident
        cases hempty)
      ⟨hpending, hfree⟩
  obtain rfl := Option.some.inj (hpayload.symm.trans hpayload')
  rw [hdark] at hlit
  cases hlit

end UyuniAgent.Agent
