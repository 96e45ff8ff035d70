import UyuniAgent.Agent.Orphans

/-!
# Firing and resolution of an incident exclude each other

No lock spans the two.  A worker's mark is set when it pops an incident, a
minion's coroutine takes the incident out of the queue before it resolves it,
and gives up if the mark is set; until its resolution ends nobody else can
queue the incident.

The runs here are those of the agent together with what can end a coroutine
early: an exception, the deadline of the poll cycle, and the cancellation of a
worker.  The steps of a dry run are added to those of a live one.
-/

namespace UyuniAgent.Agent

open Incident Queue Transition

variable {F : Type} [DecidableEq F]

inductive CycleEvent
  | agent (e : AgentEvent)
  /-- The minion's coroutine raised, or its cycle exceeded the deadline. -/
  | abandon (minion : String)
  | resolveDry (minion : String) (now : ℚ)
  /-- The investigation of a dry run is completed. -/
  | deliverDry (worker : ℕ) (analysis : RootCauseAnalysis) (now : ℚ)
  /-- The handler raised or was cancelled, and the mark is cleared. -/
  | crash (worker : ℕ) (cancelled : Bool)
  /-- The worker was cancelled while it waited to clear the mark. -/
  | lose (worker : ℕ)
  | closeQueue
  deriving DecidableEq

/-- The end of an investigation in a dry run. -/
def Job.deliverDry (job : Job F) (table : Table F)
    (analysis : RootCauseAnalysis) (now : ℚ) : JobPhase F × Table F :=
  if job.actionable table then
    (.finished .dryRun,
      markEmitted table job.work.firing.fingerprint (job.payload analysis)
        now (some job.work.firing.startsAt))
  else (.finished .recovered, table)

def cycleStep (cfg : AgentSettings F) (s : AgentState F) :
    CycleEvent → Option (AgentState F)
  | .agent e => agentStep cfg s e
  | .abandon minion =>
      match s.polls.get? minion with
      | some _ => some { s with polls := s.polls.erase minion }
      | none => none
  | .resolveDry minion now =>
      match s.polls.get? minion with
      | some (.acting (incident :: resolved) firing) =>
          let (status, queue) := s.queue.cancel incident.fingerprint
          if status = .inFlight then
            some { s with
              queue := queue
              polls := s.polls.set minion (.acting resolved firing) }
          else
            some { s with
              table := markResolved s.table incident.fingerprint now
              queue := queue
              polls := s.polls.set minion (.acting resolved firing) }
      | _ => none
  | .deliverDry worker analysis now =>
      match s.workers.get? worker with
      | some ⟨fingerprint, work, .investigating⟩ =>
          let job : Job F := ⟨fingerprint, work, .investigating⟩
          let (phase, table) := job.deliverDry s.table analysis now
          some { s.setJob worker job phase with table := table }
      | _ => none
  | .crash worker cancelled =>
      match s.workers.get? worker with
      | some job =>
          let queue :=
            if cancelled then s.queue else s.queue.recordHandled false
          some { s with
            queue := queue.release job.fingerprint
            workers := s.workers.erase worker }
      | none => none
  | .lose worker =>
      match s.workers.get? worker with
      | some _ => some { s with workers := s.workers.erase worker }
      | none => none
  | .closeQueue =>
      some { s with
        queue := { s.queue with accepting := false, closing := true } }

/-! ## What overlaps -/

/-- A minion's coroutine is resolving the incident. -/
def AgentState.Resolving (s : AgentState F) (f : F) : Prop :=
  ∃ m phase, s.polls.get? m = some phase ∧ phase.resolving = some f

/-- A worker is between popping the incident and clearing its mark. -/
def AgentState.Working (s : AgentState F) (f : F) : Prop :=
  f ∈ s.queue.inFlight ∨
    ∃ n job, s.workers.get? n = some job ∧ job.fingerprint = f

/-- The incident whose resolution a step of `process_minion_anomalies` sends,
finds answered or follows with `mark_resolved`. -/
def CycleEvent.resolves (s : AgentState F) : CycleEvent → Option F
  | .agent (.resolveNext minion _) | .resolveDry minion _ =>
      match s.polls.get? minion with
      | some (.acting (incident :: _) _) =>
          if (s.queue.cancel incident.fingerprint).1 = .inFlight then none
          else some incident.fingerprint
      | _ => none
  | .agent (.answerResolution minion _ _)
  | .agent (.finishResolution minion _) =>
      (s.polls.get? minion).bind PollPhase.resolving
  | _ => none

/-- The incident that a worker pops in a step. -/
def CycleEvent.starts (s : AgentState F) : CycleEvent → Option F
  | .agent (.pop _) => s.queue.next.map fun popped => popped.1.fingerprint
  | _ => none

/-- In the step, firing and resolution of an incident do not overlap. -/
def CycleEvent.KeepsApart (s : AgentState F) (e : CycleEvent) : Prop :=
  (∀ f, e.resolves s = some f → ¬s.Working f) ∧
    ∀ f, e.starts s = some f → ¬s.Resolving f

/-! ## The invariant under the added steps -/

section Steps

variable {cfg : AgentSettings F} {s s' : AgentState F} {minion : String}
  {worker : ℕ} {now : ℚ}

theorem step_abandon (h : cycleStep cfg s (.abandon minion) = some s') :
    s' = { s with polls := s.polls.erase minion } := by
  simp only [cycleStep] at h
  split at h
  next => exact (Option.some.inj h).symm
  next => cases h

theorem step_resolveDry
    (h : cycleStep cfg s (.resolveDry minion now) = some s') :
    ∃ incident resolved firing,
      s.polls.get? minion = some (.acting (incident :: resolved) firing) ∧
      (((s.queue.cancel incident.fingerprint).1 = .inFlight ∧
        s' = { s with
          queue := (s.queue.cancel incident.fingerprint).2
          polls := s.polls.set minion (.acting resolved firing) }) ∨
      ((s.queue.cancel incident.fingerprint).1 ≠ .inFlight ∧
        s' = { s with
          table := markResolved s.table incident.fingerprint now
          queue := (s.queue.cancel incident.fingerprint).2
          polls := s.polls.set minion (.acting resolved firing) })) := by
  simp only [cycleStep] at h
  split at h
  next incident resolved firing hpoll =>
    refine ⟨incident, resolved, firing, hpoll, ?_⟩
    split at h
    next hflight => exact Or.inl ⟨hflight, (Option.some.inj h).symm⟩
    next hfree => exact Or.inr ⟨hfree, (Option.some.inj h).symm⟩
  next => cases h

theorem step_deliverDry {analysis : RootCauseAnalysis}
    (h : cycleStep cfg s (.deliverDry worker analysis now) = some s') :
    ∃ job, s.workers.get? worker = some job ∧
      s' = { s.setJob worker job
          (job.deliverDry s.table analysis now).1 with
        table := (job.deliverDry s.table analysis now).2 } := by
  simp only [cycleStep] at h
  split at h
  next fingerprint work hjob =>
    exact ⟨_, hjob, (Option.some.inj h).symm⟩
  next => cases h

theorem step_crash {cancelled : Bool}
    (h : cycleStep cfg s (.crash worker cancelled) = some s') :
    ∃ job, s.workers.get? worker = some job ∧
      s' = { s with
        queue := (if cancelled then s.queue
          else s.queue.recordHandled false).release job.fingerprint
        workers := s.workers.erase worker } := by
  simp only [cycleStep] at h
  split at h
  next job hjob => exact ⟨job, hjob, (Option.some.inj h).symm⟩
  next => cases h

theorem step_lose (h : cycleStep cfg s (.lose worker) = some s') :
    s' = { s with workers := s.workers.erase worker } := by
  simp only [cycleStep] at h
  split at h
  next => exact (Option.some.inj h).symm
  next => cases h

end Steps

namespace Coherent

variable {cfg : AgentSettings F} {s s' : AgentState F}

theorem deliverDry (h : Coherent cfg s) {n : ℕ} {job : Job F}
    (hjob : s.workers.get? n = some job) (analysis : RootCauseAnalysis)
    (now : ℚ) :
    Coherent cfg { s.setJob n job (job.deliverDry s.table analysis now).1 with
      table := (job.deliverDry s.table analysis now).2 } := by
  unfold Job.deliverDry
  by_cases hactionable : job.actionable s.table = true
  · rw [if_pos hactionable]
    exact (h.setTable h.keyed.markEmitted fun _ _ _ hopen =>
      hopen.markEmitted).setJob hjob _
  · rw [if_neg hactionable]
    exact h.setJob hjob _

theorem cycleStep (h : Coherent cfg s) {e : CycleEvent}
    (hstep : cycleStep cfg s e = some s') : Coherent cfg s' := by
  rcases e with e | m | ⟨m, now⟩ | ⟨n, analysis, now⟩ | ⟨n, cancelled⟩ | n | _
  · exact h.step hstep
  · obtain rfl := step_abandon hstep
    exact h.erasePoll m
  · obtain ⟨incident, resolved, firing, hpoll, hcases⟩ :=
      step_resolveDry hstep
    have hcancelled := h.cancel incident.fingerprint
    have hlisted : Listed s.table m (incident :: resolved) firing :=
      h.poll_open m _ hpoll
    rcases hcases with ⟨-, rfl⟩ | ⟨hfree, rfl⟩
    · exact hcancelled.setPoll hlisted.tail
    · exact hcancelled.close hlisted (h.idle_cancel hfree)
  · obtain ⟨job, hjob, rfl⟩ := step_deliverDry hstep
    exact h.deliverDry hjob analysis now
  · obtain ⟨job, hjob, rfl⟩ := step_crash hstep
    rcases cancelled with _ | _
    · have hcounted : (s.queue.recordHandled false).Consistent := h.queue
      exact (h.recount hcounted rfl rfl).release hjob
    · exact h.release hjob
  · obtain rfl := step_lose hstep
    exact h.eraseWorker n
  · obtain rfl := Option.some.inj hstep
    exact h.recount h.queue rfl rfl

/-! ## Exclusion -/

/-- An incident that is being resolved is idle. -/
theorem idle_of_resolving (h : Coherent cfg s) {f : F}
    (hresolving : s.Resolving f) : Idle s.queue f := by
  obtain ⟨m, phase, hphase, hf⟩ := hresolving
  have hopen := h.poll_open m phase hphase
  rcases phase with anomalies | ⟨resolved, firing⟩ |
    ⟨incident, resolution, resolved, firing⟩ |
    ⟨incident, accepted, resolved, firing⟩
  · cases hf
  · cases hf
  · obtain rfl := Option.some.inj hf
    exact hopen.2
  · obtain rfl := Option.some.inj hf
    exact hopen.2

/-- The mark outlasts the work. -/
theorem working_iff (h : Coherent cfg s) {f : F} :
    s.Working f ↔ f ∈ s.queue.inFlight := by
  constructor
  · rintro (hin | ⟨n, job, hjob, rfl⟩)
    · exact hin
    · exact h.job_inFlight n job hjob
  · exact Or.inl

theorem not_working_of_resolving (h : Coherent cfg s) {f : F}
    (hresolving : s.Resolving f) : ¬s.Working f := by
  rw [h.working_iff]
  exact (h.idle_of_resolving hresolving).2

/-- Only an incident without a mark is resolved. -/
theorem not_working_of_resolves (h : Coherent cfg s) {e : CycleEvent} {f : F}
    (he : e.resolves s = some f) : ¬s.Working f := by
  have hnext : ∀ m, (match s.polls.get? m with
      | some (.acting (incident :: _) _) =>
          if (s.queue.cancel incident.fingerprint).1 = .inFlight then none
          else some incident.fingerprint
      | _ => none) = some f → ¬s.Working f := by
    intro m hm
    split at hm
    next incident resolved firing hpoll =>
      split at hm
      next => cases hm
      next hfree =>
        obtain rfl := Option.some.inj hm
        rw [h.working_iff, ← InvestigationQueue.cancel_inFlight_iff h.queue]
        exact hfree
    next => cases hm
  have hwaiting : ∀ m, (s.polls.get? m).bind PollPhase.resolving = some f →
      ¬s.Working f := by
    intro m hm
    obtain ⟨phase, hphase, hf⟩ := Option.bind_eq_some_iff.mp hm
    exact h.not_working_of_resolving ⟨m, phase, hphase, hf⟩
  unfold CycleEvent.resolves at he
  split at he
  · exact hnext _ he
  · exact hnext _ he
  · exact hwaiting _ he
  · exact hwaiting _ he
  · cases he

/-- A popped incident was pending, so nobody was resolving it. -/
theorem not_resolving_of_starts (h : Coherent cfg s) {e : CycleEvent} {f : F}
    (he : e.starts s = some f) : ¬s.Resolving f := by
  unfold CycleEvent.starts at he
  split at he
  · obtain ⟨⟨item, queue⟩, hnext, rfl⟩ := Option.map_eq_some_iff.mp he
    obtain ⟨-, hmem, -⟩ := h.queue.next hnext
    have hpending := (h.queue.mem_heap_iff item).mp hmem
    intro hresolving
    rw [(h.idle_of_resolving hresolving).1] at hpending
    cases hpending
  · cases he

theorem keepsApart (h : Coherent cfg s) (e : CycleEvent) :
    e.KeepsApart s := by
  constructor
  · intro f
    exact h.not_working_of_resolves
  · intro f
    exact h.not_resolving_of_starts

/-- A step that closes an incident's generation is a step that resolves
it. -/
theorem resolves_of_closes (h : Coherent cfg s) {e : CycleEvent}
    (hstep : Agent.cycleStep cfg s e = some s') {m : String} {f : F}
    {g : Rfc3339} (hopen : OpenAs s.table m f g)
    (hclosed : ¬OpenAs s'.table m f g) : e.resolves s = some f := by
  -- `mark_resolved` touches no other row
  have hmark : ∀ f' now, ¬OpenAs (markResolved s.table f' now) m f g →
      f' = f := by
    intro f' now hclosed
    by_contra hne
    exact hclosed (hopen.markResolved fun heq => hne heq.symm)
  rcases e with e | m' | ⟨m', now⟩ | ⟨n, analysis, now⟩ | ⟨n, cancelled⟩ | n | _
  · have hagent : agentStep cfg s e = some s' := hstep
    rcases e with ⟨minions, anomalies⟩ | ⟨m', now⟩ | ⟨m', now⟩ |
      ⟨m', accepted, now⟩ | ⟨m', now⟩ | ⟨m', now⟩ | m' | n | ⟨n, now⟩ |
      ⟨n, result, now⟩ | ⟨n, accepted, now⟩ | n | ⟨n, now⟩ | n
    · obtain ⟨-, -, rfl⟩ := step_startCycle hagent
      exact absurd hopen hclosed
    · obtain ⟨anomalies, hpoll, rfl⟩ := step_reconcile hagent
      have hcarries : ∀ a ∈ anomalies, a.minionId = m' := h.poll_open m' _ hpoll
      exact absurd (hopen.reconcile h.keyed hcarries) hclosed
    · obtain ⟨incident, resolved, firing, hpoll, hcases⟩ :=
        step_resolveNext hagent
      rcases hcases with ⟨-, rfl⟩ | ⟨hfree, -, rfl⟩ | ⟨-, payload, -, rfl⟩
      · exact absurd hopen hclosed
      · obtain rfl := hmark _ _ hclosed
        simp [CycleEvent.resolves, hpoll, hfree]
      · exact absurd hopen hclosed
    · obtain ⟨incident, resolution, resolved, firing, hpoll, rfl⟩ :=
        step_answerResolution hagent
      exact absurd hopen hclosed
    · obtain ⟨incident, accepted, resolved, firing, hpoll, rfl⟩ :=
        step_finishResolution hagent
      rcases accepted with _ | _
      · exact absurd hopen hclosed
      · obtain rfl := hmark _ _ hclosed
        simp [CycleEvent.resolves, hpoll, PollPhase.resolving]
    · obtain ⟨incident, firing, hpoll, rfl⟩ := step_enqueueNext hagent
      exact absurd hopen hclosed
    · obtain ⟨-, rfl⟩ := step_finishMinion hagent
      exact absurd hopen hclosed
    · obtain ⟨-, item, queue, hnext, rfl⟩ := step_pop hagent
      exact absurd hopen hclosed
    · obtain ⟨job, hjob, -, rfl⟩ := step_begin hagent
      exact absurd hopen hclosed
    · obtain ⟨job, hjob, -, rfl⟩ := step_conclude hagent
      exact absurd hopen hclosed
    · obtain ⟨job, hjob, hcases⟩ := step_answerPost hagent
      rcases hcases with ⟨_, _, -, rfl⟩ | ⟨_, -, rfl⟩
      · exact absurd hopen hclosed
      · exact absurd hopen hclosed
    · obtain ⟨job, payload, accepted, hjob, -, rfl⟩ :=
        step_finishTransition hagent
      exact absurd hopen hclosed
    · obtain ⟨job, payload, hjob, hcases⟩ := step_finishDelivery hagent
      rcases hcases with ⟨-, rfl⟩ | ⟨-, rfl⟩
      · exact absurd hopen.markEmitted hclosed
      · exact absurd hopen hclosed
    · obtain ⟨job, outcome, hjob, -, rfl⟩ := step_release hagent
      exact absurd hopen hclosed
  · obtain rfl := step_abandon hstep
    exact absurd hopen hclosed
  · obtain ⟨incident, resolved, firing, hpoll, hcases⟩ :=
      step_resolveDry hstep
    rcases hcases with ⟨-, rfl⟩ | ⟨hfree, rfl⟩
    · exact absurd hopen hclosed
    · obtain rfl := hmark _ _ hclosed
      simp [CycleEvent.resolves, hpoll, hfree]
  · obtain ⟨job, hjob, rfl⟩ := step_deliverDry hstep
    unfold Job.deliverDry at hclosed
    split at hclosed
    · exact absurd hopen.markEmitted hclosed
    · exact absurd hopen hclosed
  · obtain ⟨job, hjob, rfl⟩ := step_crash hstep
    exact absurd hopen hclosed
  · obtain rfl := step_lose hstep
    exact absurd hopen hclosed
  · obtain rfl := Option.some.inj hstep
    exact absurd hopen hclosed

/-- While a worker works for an incident, its generation stays open. -/
theorem open_while_working (h : Coherent cfg s) {e : CycleEvent}
    (hstep : Agent.cycleStep cfg s e = some s') {m : String} {f : F}
    {g : Rfc3339} (hworking : s.Working f) (hopen : OpenAs s.table m f g) :
    OpenAs s'.table m f g := by
  by_contra hclosed
  have hresolves := h.resolves_of_closes hstep hopen hclosed
  exact h.not_working_of_resolves hresolves hworking

end Coherent

/-! ## The guarantee -/

theorem coherent_everyState (cfg : AgentSettings F)
    (trace : List CycleEvent) :
    EveryState (cycleStep cfg) AgentState.initial trace (Coherent cfg) :=
  everyState_of_everyStep Coherent.initial
    (fun _ _ _ h _ hstep => h.cycleStep hstep)
    (everyStep_true (cycleStep cfg) AgentState.initial trace)

/-- In every run, no incident is resolved while a worker works for it, and no
worker starts on an incident that is being resolved. -/
theorem firing_and_resolution_never_overlap (cfg : AgentSettings F)
    (trace : List CycleEvent) :
    EveryState (cycleStep cfg) AgentState.initial trace
        (fun s => ∀ f, ¬(s.Resolving f ∧ s.Working f)) ∧
      EveryStep (cycleStep cfg) AgentState.initial trace
        fun s e => e.KeepsApart s := by
  have hcoherent := coherent_everyState cfg trace
  constructor
  · intro past hpast s hs f hboth
    obtain ⟨hresolving, hworking⟩ := hboth
    have h : Coherent cfg s := hcoherent past hpast s hs
    exact h.not_working_of_resolving hresolving hworking
  · intro past e hpast s s' hs _
    have hprefix : past <+: trace := (List.prefix_append past [e]).trans hpast
    have h : Coherent cfg s := hcoherent past hprefix s hs
    exact h.keepsApart e

end UyuniAgent.Agent
