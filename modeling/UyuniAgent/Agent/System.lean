import UyuniAgent.Incident.Reconcile
import UyuniAgent.Queue.Consistency
import UyuniAgent.Support.Run

/-!
# Poll cycles, queue workers and Alertmanager

The coroutines of `main.py` that share the incident store and the
investigation queue, interleaved at their await points:

* `process_minion_anomalies`, one for each minion of the current poll cycle;
* `_worker` of the queue with its handler `_process_firing_investigation`.

Alertmanager is the list of the POSTs it accepted.  A POST is sent in one step,
answered in a second and its result is handled in a third, so that anything
can happen in between.  No task is cancelled and nothing is a dry run.
-/

namespace UyuniAgent.Agent

open Incident Queue

structure InvestigationWork (F : Type) where
  firing : FiringIncident F
  detectedAt : ℚ
  deriving DecidableEq

/-- The return values of `_process_firing_investigation`. -/
inductive JobOutcome
  | stale
  | obsolete
  | llmTimeout
  | investigationFailed
  | recovered
  | transitionFailed
  | dryRun
  | delivered
  | deliveryFailed
  deriving DecidableEq, Repr

/-- How the investigation of an anomaly ended. -/
inductive InvestigationResult
  | analysis (analysis : RootCauseAnalysis)
  | timedOut
  | failed
  deriving DecidableEq

/-- The await point at which a worker's job stands. -/
inductive JobPhase (F : Type)
  | popped
  | investigating
  | transitionSent (resolution payload : AlertPayload F)
  | transitionAnswered (payload : AlertPayload F) (accepted : Bool)
  | firingSent (payload : AlertPayload F)
  | firingAnswered (payload : AlertPayload F) (accepted : Bool)
  | finished (outcome : JobOutcome)
  deriving DecidableEq

structure Job (F : Type) where
  fingerprint : F
  work : InvestigationWork F
  phase : JobPhase F
  deriving DecidableEq

/-- The await point at which `process_minion_anomalies` stands: the incidents
still to resolve and still to enqueue, and the resolution under way. -/
inductive PollPhase (F : Type)
  | reconciling (anomalies : List Anomaly)
  | acting (resolved : List (IncidentRecord F))
      (firing : List (FiringIncident F))
  | resolutionSent (incident : IncidentRecord F) (resolution : AlertPayload F)
      (resolved : List (IncidentRecord F)) (firing : List (FiringIncident F))
  | resolutionAnswered (incident : IncidentRecord F) (accepted : Bool)
      (resolved : List (IncidentRecord F)) (firing : List (FiringIncident F))
  deriving DecidableEq

/-- A POST Alertmanager accepted, and when its sender handled the result. -/
structure AcceptedPost (F : Type) where
  payload : AlertPayload F
  acceptedAt : ℚ
  handledAt : Option ℚ
  deriving DecidableEq

structure AgentState (F : Type) where
  table : Table F
  queue : InvestigationQueue F (InvestigationWork F)
  workers : OrderedDict ℕ (Job F)
  polls : OrderedDict String (PollPhase F)
  /-- The accepted POSTs, latest first. -/
  alertmanager : List (AcceptedPost F)

structure AgentSettings (F : Type) where
  store : StoreSettings F
  queue : QueueSettings
  maxJobAgeSeconds : ℚ

/-- Two workers over the default store. -/
def AgentSettings.plain : AgentSettings IdentityKey where
  store := .plain
  queue := ⟨100, 2, Nat.succ_le_succ (Nat.zero_le 99),
    Nat.succ_le_succ (Nat.zero_le 1)⟩
  maxJobAgeSeconds := 900

variable {F : Type} [DecidableEq F]

def AgentState.initial : AgentState F where
  table := OrderedDict.empty
  queue := InvestigationQueue.initial
  workers := OrderedDict.empty
  polls := OrderedDict.empty
  alertmanager := []

/-! ## Alertmanager -/

/-- The last accepted POST with a label set decides whether it is firing. -/
def isFiring (posts : List (AcceptedPost F)) (labels : Labels F) : Bool :=
  (posts.find? fun post => post.payload.labels = labels).any
    fun post => post.payload.endsAt.isNone

def post (accepted : Bool) (payload : AlertPayload F) (now : ℚ)
    (posts : List (AcceptedPost F)) : List (AcceptedPost F) :=
  if accepted then ⟨payload, now, none⟩ :: posts else posts

/-- A firing POST of the incident whose result is not handled yet. -/
def AcceptedPost.unhandledFor (post : AcceptedPost F) (fingerprint : F) :
    Bool :=
  post.payload.labels.incidentId = some fingerprint &&
    post.payload.endsAt.isNone && post.handledAt.isNone

/-- Note the time at which the result of a firing POST was handled. -/
def handle (fingerprint : F) (now : ℚ) (posts : List (AcceptedPost F)) :
    List (AcceptedPost F) :=
  posts.map fun post =>
    if post.unhandledFor fingerprint then { post with handledAt := some now }
    else post

/-! ## `_process_firing_investigation` -/

def Job.actionable (job : Job F) (table : Table F) : Bool :=
  isActionable table job.work.firing.fingerprint job.work.firing.startsAt

/-- The checks before the investigation. -/
def Job.begin (cfg : AgentSettings F) (job : Job F) (table : Table F)
    (now : ℚ) : JobPhase F :=
  if cfg.maxJobAgeSeconds < now - job.work.detectedAt then .finished .stale
  else if job.actionable table then .investigating
  else .finished .obsolete

/-- The payload of a completed investigation. -/
def Job.payload (job : Job F) (analysis : RootCauseAnalysis) :
    AlertPayload F :=
  buildAlertPayload analysis job.work.firing.anomaly
    job.work.firing.fingerprint job.work.firing.startsAt

/-- From the end of the investigation to the first POST. -/
def Job.conclude (job : Job F) (table : Table F)
    (result : InvestigationResult) (now : ℚ) : JobPhase F :=
  match result with
  | .timedOut => .finished .llmTimeout
  | .failed => .finished .investigationFailed
  | .analysis analysis =>
      if job.actionable table then
        let payload := job.payload analysis
        match job.work.firing.previousPayload with
        | none => .firingSent payload
        | some previous =>
            if previous.labels = payload.labels then .firingSent payload
            else
              .transitionSent (buildResolvedPayload previous (rfc3339 now))
                payload
      else .finished .recovered

/-- The POST a job waits for, and where its answer takes the job. -/
def JobPhase.answer (accepted : Bool) :
    JobPhase F → Option (AlertPayload F × JobPhase F)
  | .transitionSent resolution payload =>
      some (resolution, .transitionAnswered payload accepted)
  | .firingSent payload => some (payload, .firingAnswered payload accepted)
  | _ => none

/-- Handle the answer of the transition. -/
def Job.afterTransition (job : Job F) (table : Table F)
    (payload : AlertPayload F) (accepted : Bool) : JobPhase F :=
  if accepted then
    if job.actionable table then .firingSent payload
    else .finished .recovered
  else .finished .transitionFailed

/-! ## The steps -/

inductive AgentEvent
  /-- A poll cycle starts, with the snapshots' minions and the correlated
  anomalies. -/
  | startCycle (minions : List String) (anomalies : List Anomaly)
  | reconcile (minion : String) (now : ℚ)
  /-- Cancel the next incident to resolve, and resolve it if no worker holds
  it. -/
  | resolveNext (minion : String) (now : ℚ)
  | answerResolution (minion : String) (accepted : Bool) (now : ℚ)
  | finishResolution (minion : String) (now : ℚ)
  | enqueueNext (minion : String) (now : ℚ)
  | finishMinion (minion : String)
  | pop (worker : ℕ)
  | begin (worker : ℕ) (now : ℚ)
  | conclude (worker : ℕ) (result : InvestigationResult) (now : ℚ)
  | answerPost (worker : ℕ) (accepted : Bool) (now : ℚ)
  | finishTransition (worker : ℕ)
  | finishDelivery (worker : ℕ) (now : ℚ)
  | release (worker : ℕ)
  deriving DecidableEq

/-- `process_minion_anomalies` for a snapshot: its share of the cycle's
anomalies. -/
def startPolls (minions : List String) (anomalies : List Anomaly) :
    OrderedDict String (PollPhase F) :=
  minions.foldl
    (fun polls minion => polls.set minion
      (.reconciling (anomalies.filter fun a => a.minionId = minion)))
    OrderedDict.empty

def AgentState.setJob (s : AgentState F) (worker : ℕ) (job : Job F)
    (phase : JobPhase F) : AgentState F :=
  { s with workers := s.workers.set worker { job with phase := phase } }

/-- One step of some coroutine, or `none` if it is not enabled. -/
def agentStep (cfg : AgentSettings F) (s : AgentState F) :
    AgentEvent → Option (AgentState F)
  | .startCycle minions anomalies =>
      if s.polls.entries = [] ∧ minions.Nodup then
        some { s with polls := startPolls minions anomalies }
      else none
  | .reconcile minion now =>
      match s.polls.get? minion with
      | some (.reconciling anomalies) =>
          let (changes, table) :=
            Incident.reconcile cfg.store s.table minion anomalies now
          some { s with
            table := table
            polls := s.polls.set minion
              (.acting changes.resolved changes.firing) }
      | _ => none
  | .resolveNext minion now =>
      match s.polls.get? minion with
      | some (.acting (incident :: resolved) firing) =>
          let (status, queue) := s.queue.cancel incident.fingerprint
          if status = .inFlight then
            some { s with
              queue := queue
              polls := s.polls.set minion (.acting resolved firing) }
          else
            match incident.payload with
            | none =>
                some { s with
                  table := markResolved s.table incident.fingerprint now
                  queue := queue
                  polls := s.polls.set minion (.acting resolved firing) }
            | some payload =>
                some { s with
                  queue := queue
                  polls := s.polls.set minion
                    (.resolutionSent incident
                      (buildResolvedPayload payload (rfc3339 now))
                      resolved firing) }
      | _ => none
  | .answerResolution minion accepted now =>
      match s.polls.get? minion with
      | some (.resolutionSent incident resolution resolved firing) =>
          some { s with
            alertmanager := post accepted resolution now s.alertmanager
            polls := s.polls.set minion
              (.resolutionAnswered incident accepted resolved firing) }
      | _ => none
  | .finishResolution minion now =>
      match s.polls.get? minion with
      | some (.resolutionAnswered incident accepted resolved firing) =>
          some { s with
            table :=
              if accepted then markResolved s.table incident.fingerprint now
              else s.table
            polls := s.polls.set minion (.acting resolved firing) }
      | _ => none
  | .enqueueNext minion now =>
      match s.polls.get? minion with
      | some (.acting [] (incident :: firing)) =>
          some { s with
            queue := (s.queue.enqueue cfg.queue incident.fingerprint
              incident.anomaly.severity.value ⟨incident, now⟩).2
            polls := s.polls.set minion (.acting [] firing) }
      | _ => none
  | .finishMinion minion =>
      match s.polls.get? minion with
      | some (.acting [] []) => some { s with polls := s.polls.erase minion }
      | _ => none
  | .pop worker =>
      if worker < cfg.queue.workers ∧ s.workers.get? worker = none then
        match s.queue.next with
        | some (item, queue) =>
            some { s with
              queue := queue
              workers := s.workers.set worker
                ⟨item.fingerprint, item.payload, .popped⟩ }
        | none => none
      else none
  | .begin worker now =>
      match s.workers.get? worker with
      | some ⟨fingerprint, work, .popped⟩ =>
          let job : Job F := ⟨fingerprint, work, .popped⟩
          some (s.setJob worker job (job.begin cfg s.table now))
      | _ => none
  | .conclude worker result now =>
      match s.workers.get? worker with
      | some ⟨fingerprint, work, .investigating⟩ =>
          let job : Job F := ⟨fingerprint, work, .investigating⟩
          some (s.setJob worker job (job.conclude s.table result now))
      | _ => none
  | .answerPost worker accepted now =>
      match s.workers.get? worker with
      | some job =>
          match job.phase.answer accepted with
          | some (payload, phase) =>
              some { s.setJob worker job phase with
                alertmanager := post accepted payload now s.alertmanager }
          | none => none
      | none => none
  | .finishTransition worker =>
      match s.workers.get? worker with
      | some ⟨fingerprint, work, .transitionAnswered payload accepted⟩ =>
          let job : Job F :=
            ⟨fingerprint, work, .transitionAnswered payload accepted⟩
          some (s.setJob worker job
            (job.afterTransition s.table payload accepted))
      | _ => none
  | .finishDelivery worker now =>
      match s.workers.get? worker with
      | some ⟨fingerprint, work, .firingAnswered payload accepted⟩ =>
          let job : Job F :=
            ⟨fingerprint, work, .firingAnswered payload accepted⟩
          if accepted then
            some { s.setJob worker job (.finished .delivered) with
              table := markEmitted s.table work.firing.fingerprint payload now
                (some work.firing.startsAt)
              alertmanager :=
                handle work.firing.fingerprint now s.alertmanager }
          else some (s.setJob worker job (.finished .deliveryFailed))
      | _ => none
  | .release worker =>
      match s.workers.get? worker with
      | some ⟨fingerprint, _, .finished _⟩ =>
          some { s with
            queue := (s.queue.recordHandled true).release fingerprint
            workers := s.workers.erase worker }
      | _ => none

/-! ## What each step does -/

omit [DecidableEq F] in
theorem startPolls_get? {minions : List String} {anomalies : List Anomaly}
    {m : String} {phase : PollPhase F}
    (h : (startPolls minions anomalies).get? m = some phase) :
    phase = .reconciling (anomalies.filter fun a => a.minionId = m) := by
  have hfold : ∀ (minions : List String)
      (polls : OrderedDict String (PollPhase F)),
      (∀ phase, polls.get? m = some phase →
        phase = .reconciling (anomalies.filter fun a => a.minionId = m)) →
      ∀ phase, (minions.foldl (fun polls minion => polls.set minion
          (.reconciling (anomalies.filter fun a => a.minionId = minion)))
          polls).get? m = some phase →
        phase = .reconciling (anomalies.filter fun a => a.minionId = m) := by
    intro minions
    induction minions with
    | nil => exact fun polls hpolls => hpolls
    | cons minion rest ih =>
        intro polls hpolls
        refine ih _ fun phase hphase => ?_
        rcases OrderedDict.get?_set_cases hphase with ⟨rfl, rfl⟩ | ⟨-, hold⟩
        · rfl
        · exact hpolls phase hold
  exact hfold minions OrderedDict.empty (by simp) phase h

section Steps

variable {cfg : AgentSettings F} {s s' : AgentState F} {minion : String}
  {worker : ℕ} {now : ℚ} {accepted : Bool}

theorem step_startCycle {minions : List String} {anomalies : List Anomaly}
    (h : agentStep cfg s (.startCycle minions anomalies) = some s') :
    s.polls.entries = [] ∧ minions.Nodup ∧
      s' = { s with polls := startPolls minions anomalies } := by
  simp only [agentStep] at h
  split at h
  next hguard => exact ⟨hguard.1, hguard.2, (Option.some.inj h).symm⟩
  next => cases h

theorem step_reconcile
    (h : agentStep cfg s (.reconcile minion now) = some s') :
    ∃ anomalies, s.polls.get? minion = some (.reconciling anomalies) ∧
      s' = { s with
        table := (Incident.reconcile cfg.store s.table minion anomalies now).2
        polls := s.polls.set minion (.acting
          (Incident.reconcile cfg.store s.table minion anomalies
            now).1.resolved
          (Incident.reconcile cfg.store s.table minion anomalies
            now).1.firing) } := by
  simp only [agentStep] at h
  split at h
  next anomalies hpoll => exact ⟨anomalies, hpoll, (Option.some.inj h).symm⟩
  next => cases h

theorem step_resolveNext
    (h : agentStep cfg s (.resolveNext minion now) = some s') :
    ∃ incident resolved firing,
      s.polls.get? minion = some (.acting (incident :: resolved) firing) ∧
      (((s.queue.cancel incident.fingerprint).1 = .inFlight ∧
        s' = { s with
          queue := (s.queue.cancel incident.fingerprint).2
          polls := s.polls.set minion (.acting resolved firing) }) ∨
      ((s.queue.cancel incident.fingerprint).1 ≠ .inFlight ∧
        incident.payload = none ∧
        s' = { s with
          table := markResolved s.table incident.fingerprint now
          queue := (s.queue.cancel incident.fingerprint).2
          polls := s.polls.set minion (.acting resolved firing) }) ∨
      ((s.queue.cancel incident.fingerprint).1 ≠ .inFlight ∧
        ∃ payload, incident.payload = some payload ∧
        s' = { s with
          queue := (s.queue.cancel incident.fingerprint).2
          polls := s.polls.set minion (.resolutionSent incident
            (buildResolvedPayload payload (rfc3339 now)) resolved
            firing) })) := by
  simp only [agentStep] at h
  split at h
  next incident resolved firing hpoll =>
    refine ⟨incident, resolved, firing, hpoll, ?_⟩
    split at h
    next hflight => exact Or.inl ⟨hflight, (Option.some.inj h).symm⟩
    next hfree =>
      split at h
      next hpayload =>
        exact Or.inr (Or.inl ⟨hfree, hpayload, (Option.some.inj h).symm⟩)
      next payload hpayload =>
        exact Or.inr (Or.inr
          ⟨hfree, payload, hpayload, (Option.some.inj h).symm⟩)
  next => cases h

theorem step_answerResolution
    (h : agentStep cfg s (.answerResolution minion accepted now) = some s') :
    ∃ incident resolution resolved firing,
      s.polls.get? minion =
        some (.resolutionSent incident resolution resolved firing) ∧
      s' = { s with
        alertmanager := post accepted resolution now s.alertmanager
        polls := s.polls.set minion
          (.resolutionAnswered incident accepted resolved firing) } := by
  simp only [agentStep] at h
  split at h
  next incident resolution resolved firing hpoll =>
    exact ⟨incident, resolution, resolved, firing, hpoll,
      (Option.some.inj h).symm⟩
  next => cases h

theorem step_finishResolution
    (h : agentStep cfg s (.finishResolution minion now) = some s') :
    ∃ incident accepted resolved firing,
      s.polls.get? minion =
        some (.resolutionAnswered incident accepted resolved firing) ∧
      s' = { s with
        table :=
          if accepted then markResolved s.table incident.fingerprint now
          else s.table
        polls := s.polls.set minion (.acting resolved firing) } := by
  simp only [agentStep] at h
  split at h
  next incident accepted resolved firing hpoll =>
    exact ⟨incident, accepted, resolved, firing, hpoll,
      (Option.some.inj h).symm⟩
  next => cases h

theorem step_enqueueNext
    (h : agentStep cfg s (.enqueueNext minion now) = some s') :
    ∃ incident firing,
      s.polls.get? minion = some (.acting [] (incident :: firing)) ∧
      s' = { s with
        queue := (s.queue.enqueue cfg.queue incident.fingerprint
          incident.anomaly.severity.value ⟨incident, now⟩).2
        polls := s.polls.set minion (.acting [] firing) } := by
  simp only [agentStep] at h
  split at h
  next incident firing hpoll =>
    exact ⟨incident, firing, hpoll, (Option.some.inj h).symm⟩
  next => cases h

theorem step_finishMinion
    (h : agentStep cfg s (.finishMinion minion) = some s') :
    s.polls.get? minion = some (.acting [] []) ∧
      s' = { s with polls := s.polls.erase minion } := by
  simp only [agentStep] at h
  split at h
  next hpoll => exact ⟨hpoll, (Option.some.inj h).symm⟩
  next => cases h

theorem step_pop (h : agentStep cfg s (.pop worker) = some s') :
    s.workers.get? worker = none ∧ ∃ item queue,
      s.queue.next = some (item, queue) ∧
      s' = { s with
        queue := queue
        workers := s.workers.set worker
          ⟨item.fingerprint, item.payload, .popped⟩ } := by
  simp only [agentStep] at h
  split at h
  next hguard =>
    split at h
    next item queue hnext =>
      exact ⟨hguard.2, item, queue, hnext, (Option.some.inj h).symm⟩
    next => cases h
  next => cases h

theorem step_begin (h : agentStep cfg s (.begin worker now) = some s') :
    ∃ job, s.workers.get? worker = some job ∧ job.phase = .popped ∧
      s' = s.setJob worker job (job.begin cfg s.table now) := by
  simp only [agentStep] at h
  split at h
  next fingerprint work hjob =>
    exact ⟨_, hjob, rfl, (Option.some.inj h).symm⟩
  next => cases h

theorem step_conclude {result : InvestigationResult}
    (h : agentStep cfg s (.conclude worker result now) = some s') :
    ∃ job, s.workers.get? worker = some job ∧ job.phase = .investigating ∧
      s' = s.setJob worker job (job.conclude s.table result now) := by
  simp only [agentStep] at h
  split at h
  next fingerprint work hjob =>
    exact ⟨_, hjob, rfl, (Option.some.inj h).symm⟩
  next => cases h

theorem step_answerPost
    (h : agentStep cfg s (.answerPost worker accepted now) = some s') :
    ∃ job, s.workers.get? worker = some job ∧
      ((∃ resolution payload, job.phase = .transitionSent resolution payload ∧
        s' = { s.setJob worker job (.transitionAnswered payload accepted) with
          alertmanager := post accepted resolution now s.alertmanager }) ∨
      (∃ payload, job.phase = .firingSent payload ∧
        s' = { s.setJob worker job (.firingAnswered payload accepted) with
          alertmanager := post accepted payload now s.alertmanager })) := by
  simp only [agentStep] at h
  split at h
  next job hjob =>
    refine ⟨job, hjob, ?_⟩
    split at h
    next payload phase hanswer =>
      obtain rfl := Option.some.inj h
      rcases hphase : job.phase with
        _ | _ | ⟨resolution, built⟩ | _ | built | _ | _
      all_goals simp only [hphase, JobPhase.answer, reduceCtorEq,
        Option.some.injEq, Prod.mk.injEq] at hanswer
      · obtain ⟨rfl, rfl⟩ := hanswer
        exact Or.inl ⟨_, _, rfl, rfl⟩
      · obtain ⟨rfl, rfl⟩ := hanswer
        exact Or.inr ⟨_, rfl, rfl⟩
    next => cases h
  next => cases h

theorem step_finishTransition
    (h : agentStep cfg s (.finishTransition worker) = some s') :
    ∃ job payload accepted, s.workers.get? worker = some job ∧
      job.phase = .transitionAnswered payload accepted ∧
      s' = s.setJob worker job
        (job.afterTransition s.table payload accepted) := by
  simp only [agentStep] at h
  split at h
  next fingerprint work payload accepted hjob =>
    exact ⟨_, payload, accepted, hjob, rfl, (Option.some.inj h).symm⟩
  next => cases h

theorem step_finishDelivery
    (h : agentStep cfg s (.finishDelivery worker now) = some s') :
    ∃ job payload, s.workers.get? worker = some job ∧
      ((job.phase = .firingAnswered payload true ∧
        s' = { s.setJob worker job (.finished .delivered) with
          table := markEmitted s.table job.work.firing.fingerprint payload now
            (some job.work.firing.startsAt)
          alertmanager :=
            handle job.work.firing.fingerprint now s.alertmanager }) ∨
      (job.phase = .firingAnswered payload false ∧
        s' = s.setJob worker job (.finished .deliveryFailed))) := by
  simp only [agentStep] at h
  split at h
  next fingerprint work payload accepted hjob =>
    refine ⟨_, payload, hjob, ?_⟩
    split at h
    next hok =>
      subst hok
      exact Or.inl ⟨rfl, (Option.some.inj h).symm⟩
    next hfail =>
      obtain rfl : accepted = false := by simpa using hfail
      exact Or.inr ⟨rfl, (Option.some.inj h).symm⟩
  next => cases h

theorem step_release (h : agentStep cfg s (.release worker) = some s') :
    ∃ job outcome, s.workers.get? worker = some job ∧
      job.phase = .finished outcome ∧
      s' = { s with
        queue := (s.queue.recordHandled true).release job.fingerprint
        workers := s.workers.erase worker } := by
  simp only [agentStep] at h
  split at h
  next fingerprint work outcome hjob =>
    exact ⟨_, outcome, hjob, rfl, (Option.some.inj h).symm⟩
  next => cases h

end Steps

end UyuniAgent.Agent
