import UyuniAgent.Agent.Orphans

/-!
# Recovery is announced

An incident that is missed often enough is listed for resolution by each poll
of its minion until its row is closed.  Here this debt is followed through the
interleaving: from the reconciliation that incurs it, over the steps of the
other coroutines and workers, to the end of the poll that pays it.
-/

namespace UyuniAgent.Agent

open Incident Queue Transition

variable {F : Type} [DecidableEq F]

/-! ## The conditions on the steps -/

/-- The anomalies that the minion's coroutine is about to reconcile. -/
def PollPhase.observing : PollPhase F → List Anomaly
  | .reconciling anomalies => anomalies
  | _ => []

/-- The incident that the minion's coroutine is about to resolve. -/
def PollPhase.nextToResolve : PollPhase F → Option F
  | .acting (incident :: _) _ => some incident.fingerprint
  | _ => none

/-- The reconciliations of the minion do not observe the incident. -/
def Misses (cfg : AgentSettings F) (m : String) (f : F) (s : AgentState F) :
    AgentEvent → Prop
  | .reconcile m' _ => m' = m → ∀ phase ∈ s.polls.get? m,
      ∀ a ∈ phase.observing, cfg.store.scheme.incidentFingerprint a ≠ f
  | _ => True

/-- No worker holds the incident when its resolution is due, and the POST of
its resolution is accepted. -/
def LetsResolve (m : String) (f : F) (s : AgentState F) : AgentEvent → Prop
  | .resolveNext m' _ => m' = m → ∀ phase ∈ s.polls.get? m,
      phase.nextToResolve = some f → f ∉ s.queue.inFlight
  | .answerResolution m' accepted _ => m' = m → ∀ phase ∈ s.polls.get? m,
      phase.resolving = some f → accepted = true
  | _ => True

instance (cfg : AgentSettings F) (m : String) (f : F) (s : AgentState F) :
    DecidablePred (Misses cfg m f s)
  | .reconcile m' _ => inferInstanceAs (Decidable (m' = m →
      ∀ phase ∈ s.polls.get? m, ∀ a ∈ phase.observing,
        cfg.store.scheme.incidentFingerprint a ≠ f))
  | .startCycle _ _ | .resolveNext _ _ | .answerResolution _ _ _
  | .finishResolution _ _ | .enqueueNext _ _ | .finishMinion _ | .pop _
  | .begin _ _ | .conclude _ _ _ | .answerPost _ _ _ | .finishTransition _
  | .finishDelivery _ _ | .release _ => isTrue trivial

instance (m : String) (f : F) (s : AgentState F) :
    DecidablePred (LetsResolve m f s)
  | .resolveNext m' _ => inferInstanceAs (Decidable (m' = m →
      ∀ phase ∈ s.polls.get? m,
        phase.nextToResolve = some f → f ∉ s.queue.inFlight))
  | .answerResolution m' accepted _ => inferInstanceAs (Decidable (m' = m →
      ∀ phase ∈ s.polls.get? m,
        phase.resolving = some f → accepted = true))
  | .startCycle _ _ | .reconcile _ _ | .finishResolution _ _
  | .enqueueNext _ _ | .finishMinion _ | .pop _ | .begin _ _
  | .conclude _ _ _ | .answerPost _ _ _ | .finishTransition _
  | .finishDelivery _ _ | .release _ => isTrue trivial

def reconcilesMinion (m : String) : AgentEvent → Bool
  | .reconcile m' _ => m' = m
  | _ => false

/-! ## Counting the missed cycles -/

/-- The incident is in its generation `g`, and while that is open the last `k`
reconciliations of its minion missed it. -/
def MissedFor (table : Table F) (m : String) (f : F) (g : Rfc3339) (k : ℕ) :
    Prop :=
  ∃ row, table.get? f = some row ∧ row.minionId = m ∧ row.startsAt = g ∧
    (row.status = .active → k ≤ row.consecutiveAbsent)

section Missed

variable {cfg : StoreSettings F} {table : Table F} {m m' : String} {f f' : F}
  {g : Rfc3339} {k : ℕ} {anomalies : List Anomaly} {now : ℚ}

theorem missedFor_of_openAs (h : OpenAs table m f g) :
    MissedFor table m f g 0 := by
  obtain ⟨row, hrow, -, hm, hg⟩ := h
  exact ⟨row, hrow, hm, hg, fun _ => Nat.zero_le _⟩

/-- Reconciling another minion does not touch the row. -/
theorem MissedFor.get?_reconcile_other (h : MissedFor table m f g k)
    (hkeyed : KeyedBy cfg.scheme table)
    (hcarries : ∀ a ∈ anomalies, a.minionId = m') (hne : m' ≠ m) (now : ℚ) :
    (Incident.reconcile cfg table m' anomalies now).2.get? f =
      table.get? f := by
  obtain ⟨row, hrow, hm, -, -⟩ := h
  apply reconcile_of_untouched
  · have hother : row.activeFor m' = false := by
      rw [Row.activeFor, hm, decide_eq_false (Ne.symm hne), Bool.false_and]
    rw [activeRow, hrow, Option.filter_some, hother]
    rfl
  · rw [Option.eq_none_iff_forall_ne_some]
    intro anomaly hobserved
    obtain ⟨hminion, hkey⟩ :=
      row_minionId_of_observed hkeyed hcarries hrow hobserved
    have hrowMinion : row.minionId = m' :=
      (congrArg IdentityKey.minionId hkey).trans hminion
    exact hne (hrowMinion.symm.trans hm)

theorem preferMoreSevere_get?_of_missed
    (hmissed : ∀ a ∈ anomalies, cfg.scheme.incidentFingerprint a ≠ f) :
    (preferMoreSevere cfg anomalies).get? f = none := by
  rw [Option.eq_none_iff_forall_ne_some]
  intro anomaly hobserved
  obtain ⟨hmem, hkey⟩ := mem_of_preferMoreSevere_get? hobserved
  exact hmissed anomaly hmem hkey

/-- A reconciliation that misses the incident counts one more cycle. -/
theorem MissedFor.reconcile_missed (h : MissedFor table m f g k)
    (hmissed : ∀ a ∈ anomalies, cfg.scheme.incidentFingerprint a ≠ f) :
    MissedFor (Incident.reconcile cfg table m anomalies now).2 m f g
      (k + 1) := by
  obtain ⟨row, hrow, hm, hg, hk⟩ := h
  have hafter : (Incident.reconcile cfg table m anomalies now).2.get? f =
      reconciledRow m now none (some row) := by
    rw [reconcile_get?, hrow, preferMoreSevere_get?_of_missed hmissed]
  by_cases hmine : row.activeFor m = true
  · rw [reconciledRow, if_pos hmine] at hafter
    exact ⟨_, hafter, hm, hg, fun hactive => Nat.succ_le_succ (hk hactive)⟩
  · rw [reconciledRow, if_neg hmine] at hafter
    refine ⟨row, hafter, hm, hg, fun hactive => absurd ?_ hmine⟩
    rw [Row.activeFor, hm, hactive]
    simp

theorem MissedFor.markResolved (h : MissedFor table m f g k) :
    MissedFor (Incident.markResolved table f' now) m f g k := by
  obtain ⟨row, hrow, hm, hg, hk⟩ := h
  rw [MissedFor, Incident.markResolved, OrderedDict.get?_mapValues, hrow]
  refine ⟨_, rfl, ?_⟩
  dsimp only
  split
  next hclosed => exact ⟨hm, hg, fun hactive => by cases hactive⟩
  next => exact ⟨hm, hg, hk⟩

theorem MissedFor.markEmitted (h : MissedFor table m f g k)
    {payload : AlertPayload F} {startsAt : Option Rfc3339} :
    MissedFor (Incident.markEmitted table f' payload now startsAt) m f g
      k := by
  obtain ⟨row, hrow, hm, hg, hk⟩ := h
  rw [MissedFor, Incident.markEmitted, OrderedDict.get?_mapValues, hrow]
  refine ⟨_, rfl, ?_⟩
  dsimp only
  split
  next => exact ⟨hm, hg, hk⟩
  next => exact ⟨hm, hg, hk⟩

theorem MissedFor.mono {k' : ℕ} (h : MissedFor table m f g k)
    (hle : k' ≤ k) : MissedFor table m f g k' := by
  obtain ⟨row, hrow, hm, hg, hk⟩ := h
  exact ⟨row, hrow, hm, hg, fun hactive => hle.trans (hk hactive)⟩

end Missed

/-- The table of a step of `agentStep` is the old one, a reconciled one, or
one with an acknowledgement. -/
inductive TableStep (cfg : AgentSettings F) (s : AgentState F) :
    AgentEvent → Table F → Prop
  | reconcile (m : String) (now : ℚ) (anomalies : List Anomaly)
      (hpoll : s.polls.get? m = some (.reconciling anomalies)) :
      TableStep cfg s (.reconcile m now)
        (Incident.reconcile cfg.store s.table m anomalies now).2
  | markResolved (e : AgentEvent) (f : F) (now : ℚ)
      (he : ∀ m, reconcilesMinion m e = false) :
      TableStep cfg s e (Incident.markResolved s.table f now)
  | markEmitted (n : ℕ) (now : ℚ) (job : Job F) (payload : AlertPayload F)
      (startsAt : Option Rfc3339) (hjob : s.workers.get? n = some job)
      (hphase : job.phase = .firingAnswered payload true) :
      TableStep cfg s (.finishDelivery n now)
        (Incident.markEmitted s.table job.work.firing.fingerprint payload now
          startsAt)
  | same (e : AgentEvent) (he : ∀ m, reconcilesMinion m e = false) :
      TableStep cfg s e s.table

section Step

variable {cfg : AgentSettings F} {s s' : AgentState F} {m : String} {f : F}
  {g : Rfc3339} {k : ℕ} {e : AgentEvent}

theorem tableStep (hstep : agentStep cfg s e = some s') :
    TableStep cfg s e s'.table := by
  rcases e with ⟨minions, anomalies⟩ | ⟨m, now⟩ | ⟨m, now⟩ |
    ⟨m, accepted, now⟩ | ⟨m, now⟩ | ⟨m, now⟩ | m | n | ⟨n, now⟩ |
    ⟨n, result, now⟩ | ⟨n, accepted, now⟩ | n | ⟨n, now⟩ | n
  · obtain ⟨-, -, rfl⟩ := step_startCycle hstep
    exact .same _ fun _ => rfl
  · obtain ⟨anomalies, hpoll, rfl⟩ := step_reconcile hstep
    exact .reconcile m now anomalies hpoll
  · obtain ⟨incident, resolved, firing, -, hcases⟩ := step_resolveNext hstep
    rcases hcases with ⟨-, rfl⟩ | ⟨-, -, rfl⟩ | ⟨-, payload, -, rfl⟩
    · exact .same _ fun _ => rfl
    · exact .markResolved _ _ _ fun _ => rfl
    · exact .same _ fun _ => rfl
  · obtain ⟨incident, resolution, resolved, firing, -, rfl⟩ :=
      step_answerResolution hstep
    exact .same _ fun _ => rfl
  · obtain ⟨incident, accepted, resolved, firing, -, rfl⟩ :=
      step_finishResolution hstep
    rcases accepted with _ | _
    · exact .same _ fun _ => rfl
    · exact .markResolved _ _ _ fun _ => rfl
  · obtain ⟨incident, firing, -, rfl⟩ := step_enqueueNext hstep
    exact .same _ fun _ => rfl
  · obtain ⟨-, rfl⟩ := step_finishMinion hstep
    exact .same _ fun _ => rfl
  · obtain ⟨-, item, queue, -, rfl⟩ := step_pop hstep
    exact .same _ fun _ => rfl
  · obtain ⟨job, -, -, rfl⟩ := step_begin hstep
    exact .same _ fun _ => rfl
  · obtain ⟨job, -, -, rfl⟩ := step_conclude hstep
    exact .same _ fun _ => rfl
  · obtain ⟨job, -, hcases⟩ := step_answerPost hstep
    rcases hcases with ⟨_, _, -, rfl⟩ | ⟨_, -, rfl⟩
    · exact .same _ fun _ => rfl
    · exact .same _ fun _ => rfl
  · obtain ⟨job, payload, accepted, -, -, rfl⟩ := step_finishTransition hstep
    exact .same _ fun _ => rfl
  · obtain ⟨job, payload, hjob, hcases⟩ := step_finishDelivery hstep
    rcases hcases with ⟨hphase, rfl⟩ | ⟨-, rfl⟩
    · exact .markEmitted n now job payload _ hjob hphase
    · exact .same _ fun _ => rfl
  · obtain ⟨job, outcome, -, -, rfl⟩ := step_release hstep
    exact .same _ fun _ => rfl

theorem MissedFor.step (h : MissedFor s.table m f g k) (hc : Coherent cfg s)
    (hmisses : Misses cfg m f s e) (hstep : agentStep cfg s e = some s') :
    MissedFor s'.table m f g (if reconcilesMinion m e then k + 1 else k) := by
  have htable := tableStep hstep
  generalize s'.table = table' at htable
  cases htable with
  | reconcile m' now anomalies hpoll =>
      by_cases hm : m' = m
      · subst hm
        rw [reconcilesMinion, decide_eq_true rfl, if_pos rfl]
        exact h.reconcile_missed (hmisses rfl _ hpoll)
      · rw [reconcilesMinion, decide_eq_false hm, if_neg Bool.false_ne_true,
          MissedFor,
          h.get?_reconcile_other hc.keyed (hc.poll_open m' _ hpoll) hm now]
        exact h
  | markResolved _ f' now he =>
      rw [he m, if_neg Bool.false_ne_true]
      exact h.markResolved
  | markEmitted n now job payload startsAt _ _ =>
      have he : reconcilesMinion m (.finishDelivery n now) = false := rfl
      rw [he, if_neg Bool.false_ne_true]
      exact h.markEmitted
  | same _ he =>
      rw [he m, if_neg Bool.false_ne_true]
      exact h

/-- Over a stretch of a run that misses the incident, the count grows with each
reconciliation of the minion. -/
theorem MissedFor.of_exec {absent : List AgentEvent}
    (hc : Coherent cfg s) (hopen : OpenAs s.table m f g)
    (hmisses : EveryStep (agentStep cfg) s absent (Misses cfg m f))
    (hs' : exec (agentStep cfg) s absent = some s') :
    MissedFor s'.table m f g (absent.countP (reconcilesMinion m)) := by
  have hinvariant := exec_induction
    (P := fun past s' => Coherent cfg s' ∧
      MissedFor s'.table m f g (past.countP (reconcilesMinion m)))
    ⟨hc, missedFor_of_openAs hopen⟩ ?_ hmisses hs'
  · exact hinvariant.2
  · intro past s₁ e s₂ _ h hmiss hstep
    refine ⟨h.1.step hstep, ?_⟩
    have hnext := h.2.step h.1 hmiss hstep
    rw [List.countP_append, List.countP_singleton]
    by_cases he : reconcilesMinion m e = true
    · rwa [if_pos he] at hnext ⊢
    · rwa [if_neg he] at hnext ⊢

end Step

/-! ## What the poll owes -/

/-- The minion's coroutine has still to close the incident. -/
def PollPhase.owes (f : F) : PollPhase F → Prop
  | .reconciling _ => False
  | .acting resolved _ => f ∈ resolved.map (·.fingerprint)
  | .resolutionSent incident _ resolved _ =>
      f = incident.fingerprint ∨ f ∈ resolved.map (·.fingerprint)
  | .resolutionAnswered incident accepted resolved _ =>
      f = incident.fingerprint ∧ accepted = true ∨
        f ∈ resolved.map (·.fingerprint)

/-- While the generation is open, its minion's coroutine owes its
resolution. -/
def Owed (s : AgentState F) (m : String) (f : F) (g : Rfc3339) : Prop :=
  OpenAs s.table m f g → ∃ phase, s.polls.get? m = some phase ∧ phase.owes f

section Owed

variable {cfg : AgentSettings F} {s s' : AgentState F} {m m' : String} {f : F}
  {g : Rfc3339} {k : ℕ} {e : AgentEvent} {now : ℚ}

/-- No step but a reconciliation that observes it opens the generation. -/
theorem openAs_of_step (h : MissedFor s.table m f g k) (hc : Coherent cfg s)
    (he : reconcilesMinion m e = false)
    (hstep : agentStep cfg s e = some s') (hopen : OpenAs s'.table m f g) :
    OpenAs s.table m f g := by
  have htable := tableStep hstep
  generalize s'.table = table' at htable hopen
  cases htable with
  | reconcile m' now anomalies hpoll =>
      have hm : m' ≠ m := by simpa [reconcilesMinion] using he
      rwa [OpenAs,
        h.get?_reconcile_other hc.keyed (hc.poll_open m' _ hpoll) hm
          now] at hopen
  | markResolved _ f' now _ =>
      obtain ⟨row, hrow, hactive, hm, hg⟩ := hopen
      by_cases hf : f = f'
      · subst hf
        rw [(markResolved_get?_self hrow).1] at hactive
        cases hactive
      · rw [markResolved_get?_of_ne hf] at hrow
        exact ⟨row, hrow, hactive, hm, hg⟩
  | markEmitted n now job payload startsAt _ _ =>
      obtain ⟨row, hrow, hactive, hm, hg⟩ := hopen
      obtain ⟨row₀, hrow₀, hkey, hstatus, hstarts⟩ :=
        markEmitted_get?_cases hrow
      refine ⟨row₀, hrow₀, hstatus.symm.trans hactive, ?_,
        hstarts.symm.trans hg⟩
      exact (congrArg IdentityKey.minionId hkey).symm.trans hm
  | same _ _ => exact hopen

/-- Steps that leave the minion's coroutine where it is leave the debt. -/
theorem Owed.of_poll (h : Owed s m f g) (hmissed : MissedFor s.table m f g k)
    (hc : Coherent cfg s) (he : reconcilesMinion m e = false)
    (hstep : agentStep cfg s e = some s')
    (hpoll : s'.polls.get? m = s.polls.get? m) : Owed s' m f g := by
  intro hopen
  rw [hpoll]
  exact h (openAs_of_step hmissed hc he hstep hopen)

/-- A reconciliation that misses the incident once more lists it, if it has
been missed often enough. -/
theorem owed_reconcile (hmissed : MissedFor s.table m f g k)
    (hcycles : cfg.store.resolveAfterHealthyCycles ≤ k + 1)
    (hmisses : Misses cfg m f s (.reconcile m now))
    (hstep : agentStep cfg s (.reconcile m now) = some s') :
    Owed s' m f g := by
  obtain ⟨anomalies, hpoll, rfl⟩ := step_reconcile hstep
  rintro ⟨row', hrow', hactive', -, -⟩
  refine ⟨_, OrderedDict.get?_set_self, ?_⟩
  obtain ⟨row, hrow, hm, -, hk⟩ := hmissed
  have hunobserved : (preferMoreSevere cfg.store anomalies).get? f = none :=
    preferMoreSevere_get?_of_missed (hmisses rfl _ hpoll)
  have hafter : reconciledRow m now none (some row) = some row' := by
    rw [← hrow', reconcile_get?, hunobserved, hrow]
  obtain ⟨_, hsame, hcases⟩ := reconciledRow_missed hafter
  obtain rfl := Option.some.inj hsame
  have hmine : row.activeFor m = true := by
    obtain ⟨hmine, -⟩ | ⟨-, rfl⟩ := hcases
    · exact hmine
    · rw [Row.activeFor, hm, hactive']
      simp
  have hactive : row.status = .active := by
    rw [Row.activeFor, Bool.and_eq_true] at hmine
    exact of_decide_eq_true hmine.2
  have hcount := hk hactive
  exact List.mem_map.mpr ⟨_, mem_reconcile_resolved_iff.mpr
    ⟨f, row, activeRow_eq_some_iff.mpr ⟨hrow, hmine⟩, hunobserved, by omega,
      rfl⟩, rfl⟩

/-- The step of the minion's own coroutine. -/
theorem Owed.resolveNext (h : Owed s m f g) (hc : Coherent cfg s)
    (hlets : LetsResolve m f s (.resolveNext m now))
    (hstep : agentStep cfg s (.resolveNext m now) = some s') :
    Owed s' m f g := by
  obtain ⟨incident, resolved, firing, hpoll, hcases⟩ := step_resolveNext hstep
  have howes : OpenAs s.table m f g →
      f = incident.fingerprint ∨ f ∈ resolved.map (·.fingerprint) := by
    intro hopen
    obtain ⟨phase, hphase, howes⟩ := h hopen
    obtain rfl := Option.some.inj (hpoll.symm.trans hphase)
    exact List.mem_cons.mp howes
  obtain ⟨hflight, rfl⟩ | ⟨-, -, rfl⟩ | ⟨-, payload, -, rfl⟩ := hcases
  · intro hopen
    refine ⟨_, OrderedDict.get?_set_self, (howes hopen).resolve_left ?_⟩
    intro hf
    have hfree := hlets rfl _ hpoll (congrArg some hf.symm)
    rw [hf] at hfree
    exact hfree ((InvestigationQueue.cancel_inFlight_iff hc.queue).mp hflight)
  · intro hopen
    obtain ⟨row, hrow, hactive, hm, hg⟩ := hopen
    have hf : f ≠ incident.fingerprint := by
      rintro rfl
      rw [(markResolved_get?_self hrow).1] at hactive
      cases hactive
    rw [markResolved_get?_of_ne hf] at hrow
    exact ⟨_, OrderedDict.get?_set_self,
      (howes ⟨row, hrow, hactive, hm, hg⟩).resolve_left hf⟩
  · intro hopen
    exact ⟨_, OrderedDict.get?_set_self, howes hopen⟩

theorem Owed.answerResolution {accepted : Bool} (h : Owed s m f g)
    (hlets : LetsResolve m f s (.answerResolution m accepted now))
    (hstep : agentStep cfg s (.answerResolution m accepted now) = some s') :
    Owed s' m f g := by
  obtain ⟨incident, resolution, resolved, firing, hpoll, rfl⟩ :=
    step_answerResolution hstep
  intro hopen
  refine ⟨_, OrderedDict.get?_set_self, ?_⟩
  obtain ⟨phase, hphase, howes⟩ := h hopen
  obtain rfl := Option.some.inj (hpoll.symm.trans hphase)
  refine Or.imp_left (fun hf => ⟨hf, ?_⟩) howes
  exact hlets rfl _ hpoll (congrArg some hf.symm)

theorem Owed.finishResolution (h : Owed s m f g)
    (hstep : agentStep cfg s (.finishResolution m now) = some s') :
    Owed s' m f g := by
  obtain ⟨incident, accepted, resolved, firing, hpoll, rfl⟩ :=
    step_finishResolution hstep
  intro hopen
  refine ⟨_, OrderedDict.get?_set_self, ?_⟩
  have howes : OpenAs s.table m f g →
      f = incident.fingerprint ∧ accepted = true ∨
        f ∈ resolved.map (·.fingerprint) := by
    intro hbefore
    obtain ⟨phase, hphase, howes⟩ := h hbefore
    obtain rfl := Option.some.inj (hpoll.symm.trans hphase)
    exact howes
  cases accepted with
  | false => exact (howes hopen).resolve_left fun hf => nomatch hf.2
  | true =>
      obtain ⟨row, hrow, hactive, hm, hg⟩ := hopen
      have hf : f ≠ incident.fingerprint := by
        rintro rfl
        rw [if_pos rfl] at hrow
        rw [(markResolved_get?_self hrow).1] at hactive
        cases hactive
      rw [if_pos rfl, markResolved_get?_of_ne hf] at hrow
      exact (howes ⟨row, hrow, hactive, hm, hg⟩).resolve_left
        fun hincident => hf hincident.1

/-- A coroutine with nothing left to resolve owes nothing. -/
theorem Owed.not_open {firing : List (FiringIncident F)} (h : Owed s m f g)
    (hpoll : s.polls.get? m = some (.acting [] firing)) :
    ¬OpenAs s.table m f g := by
  intro hopen
  obtain ⟨phase, hphase, howes⟩ := h hopen
  obtain rfl := Option.some.inj (hpoll.symm.trans hphase)
  cases howes

theorem Owed.step (h : Owed s m f g) (hc : Coherent cfg s)
    (hmissed : MissedFor s.table m f g k)
    (hcycles : cfg.store.resolveAfterHealthyCycles ≤ k + 1)
    (hmisses : Misses cfg m f s e) (hlets : LetsResolve m f s e)
    (hstep : agentStep cfg s e = some s') : Owed s' m f g := by
  have hother : ∀ {m'}, m' ≠ m → ∀ phase,
      (s.polls.set m' phase).get? m = s.polls.get? m :=
    fun hne _ => OrderedDict.get?_set_of_ne (Ne.symm hne)
  have hworker : reconcilesMinion m e = false → s'.polls = s.polls →
      Owed s' m f g :=
    fun he hpolls => h.of_poll hmissed hc he hstep (by rw [hpolls])
  cases e with
  | startCycle minions anomalies =>
      obtain ⟨hnone, -, rfl⟩ := step_startCycle hstep
      intro hopen
      obtain ⟨phase, hphase, -⟩ := h hopen
      rw [OrderedDict.get?_eq_some_iff, hnone] at hphase
      cases hphase
  | reconcile m' now =>
      by_cases hm : m' = m
      · subst hm
        exact owed_reconcile hmissed hcycles hmisses hstep
      · have he : reconcilesMinion m (.reconcile m' now) = false :=
          decide_eq_false hm
        refine h.of_poll hmissed hc he hstep ?_
        obtain ⟨anomalies, -, rfl⟩ := step_reconcile hstep
        exact hother hm _
  | resolveNext m' now =>
      by_cases hm : m' = m
      · subst hm
        exact h.resolveNext hc hlets hstep
      · refine h.of_poll hmissed hc rfl hstep ?_
        obtain ⟨incident, resolved, firing, -, hcases⟩ :=
          step_resolveNext hstep
        obtain ⟨-, rfl⟩ | ⟨-, -, rfl⟩ | ⟨-, payload, -, rfl⟩ := hcases
        all_goals exact hother hm _
  | answerResolution m' accepted now =>
      by_cases hm : m' = m
      · subst hm
        exact h.answerResolution hlets hstep
      · refine h.of_poll hmissed hc rfl hstep ?_
        obtain ⟨incident, resolution, resolved, firing, -, rfl⟩ :=
          step_answerResolution hstep
        exact hother hm _
  | finishResolution m' now =>
      by_cases hm : m' = m
      · subst hm
        exact h.finishResolution hstep
      · refine h.of_poll hmissed hc rfl hstep ?_
        obtain ⟨incident, accepted, resolved, firing, -, rfl⟩ :=
          step_finishResolution hstep
        exact hother hm _
  | enqueueNext m' now =>
      by_cases hm : m' = m
      · subst hm
        obtain ⟨incident, firing, hpoll, rfl⟩ := step_enqueueNext hstep
        exact fun hopen => absurd hopen (h.not_open hpoll)
      · refine h.of_poll hmissed hc rfl hstep ?_
        obtain ⟨incident, firing, -, rfl⟩ := step_enqueueNext hstep
        exact hother hm _
  | finishMinion m' =>
      by_cases hm : m' = m
      · subst hm
        obtain ⟨hpoll, rfl⟩ := step_finishMinion hstep
        exact fun hopen => absurd hopen (h.not_open hpoll)
      · refine h.of_poll hmissed hc rfl hstep ?_
        obtain ⟨-, rfl⟩ := step_finishMinion hstep
        exact OrderedDict.get?_erase_of_ne (Ne.symm hm)
  | pop n =>
      refine hworker rfl ?_
      obtain ⟨-, item, queue, -, rfl⟩ := step_pop hstep
      rfl
  | begin n now =>
      refine hworker rfl ?_
      obtain ⟨job, -, -, rfl⟩ := step_begin hstep
      rfl
  | conclude n result now =>
      refine hworker rfl ?_
      obtain ⟨job, -, -, rfl⟩ := step_conclude hstep
      rfl
  | answerPost n accepted now =>
      refine hworker rfl ?_
      obtain ⟨job, -, ⟨_, _, -, rfl⟩ | ⟨_, -, rfl⟩⟩ := step_answerPost hstep
      · rfl
      · rfl
  | finishTransition n =>
      refine hworker rfl ?_
      obtain ⟨job, payload, accepted, -, -, rfl⟩ := step_finishTransition hstep
      rfl
  | finishDelivery n now =>
      refine hworker rfl ?_
      obtain ⟨job, payload, -, ⟨-, rfl⟩ | ⟨-, rfl⟩⟩ := step_finishDelivery hstep
      · rfl
      · rfl
  | release n =>
      refine hworker rfl ?_
      obtain ⟨job, outcome, -, -, rfl⟩ := step_release hstep
      rfl

end Owed

/-! ## The whole recovery -/

section Recovered

variable {cfg : AgentSettings F} {m : String} {f : F} {g : Rfc3339}

/-- A closed generation has nothing under way. -/
theorem quiet_of_closed {s : AgentState F} (hc : Coherent cfg s) {row : Row F}
    (hrow : s.table.get? f = some row) (hclosed : row.status = .resolved) :
    s.queue.pending.get? f = none ∧ Quiet s f := by
  have hnotOpen : ∀ m g, ¬OpenAs s.table m f g := by
    rintro m g ⟨row', hrow', hactive, -, -⟩
    obtain rfl := Option.some.inj (hrow.symm.trans hrow')
    rw [hclosed] at hactive
    cases hactive
  refine ⟨?_, ?_, ?_⟩
  · rw [Option.eq_none_iff_forall_ne_some]
    intro item hitem
    obtain ⟨-, m, hopen⟩ := hc.pending_open f item hitem
    exact hnotOpen m _ hopen
  · rintro n job hjob rfl
    obtain ⟨-, m, hopen⟩ := hc.job_open n job hjob
    exact hnotOpen m _ hopen
  · intro m phase hphase hresolving
    have hopen := hc.poll_open m phase hphase
    cases phase with
    | reconciling _ => cases hresolving
    | acting _ _ => cases hresolving
    | resolutionSent incident _ _ _ =>
        obtain rfl := Option.some.inj hresolving
        exact hnotOpen m _
          (hopen.1.resolved_open incident List.mem_cons_self)
    | resolutionAnswered incident _ _ _ =>
        obtain rfl := Option.some.inj hresolving
        exact hnotOpen m _
          (hopen.1.resolved_open incident List.mem_cons_self)

/-- From the reconciliation that makes the resolution due to the end of its
poll. -/
theorem closed_of_due {s₁ s : AgentState F} {final : List AgentEvent}
    {now : ℚ} {k : ℕ} (hc : Coherent cfg s₁)
    (hmissed : MissedFor s₁.table m f g k)
    (hcycles : cfg.store.resolveAfterHealthyCycles ≤ k + 1)
    (hmisses : EveryStep (agentStep cfg) s₁ (.reconcile m now :: final)
      (Misses cfg m f))
    (hlets : EveryStep (agentStep cfg) s₁ (.reconcile m now :: final)
      (LetsResolve m f))
    (hs : exec (agentStep cfg) s₁ (.reconcile m now :: final) = some s)
    (hended : s.polls.get? m = none) :
    ∃ row, s.table.get? f = some row ∧ row.startsAt = g ∧
      row.status = .resolved := by
  rw [exec_cons, Option.bind_eq_some_iff] at hs
  obtain ⟨s₂, hfirst, hs₂⟩ := hs
  have hreach : exec (agentStep cfg) s₁ [.reconcile m now] = some s₂ := by
    rw [exec_cons, hfirst]
    rfl
  have hmiss : Misses cfg m f s₁ (.reconcile m now) :=
    hmisses [] _ (List.prefix_append _ final) s₁ s₂ rfl hfirst
  have hcount : MissedFor s₂.table m f g k := by
    have hnext := hmissed.step hc hmiss hfirst
    rw [reconcilesMinion, decide_eq_true rfl, if_pos rfl] at hnext
    exact hnext.mono (Nat.le_succ k)
  have howed : Owed s₂ m f g := owed_reconcile hmissed hcycles hmiss hfirst
  have hinvariant := exec_invariant
    (P := fun s => Coherent cfg s ∧ MissedFor s.table m f g k ∧
      Owed s m f g)
    (C := fun s e => Misses cfg m f s e ∧ LetsResolve m f s e)
    ⟨hc.step hfirst, hcount, howed⟩ ?_ ?_ hs₂
  · obtain ⟨-, ⟨row, hrow, hm, hg, -⟩, howed⟩ := hinvariant
    refine ⟨row, hrow, hg, ?_⟩
    cases hstatus : row.status with
    | resolved => rfl
    | active =>
        obtain ⟨phase, hphase, -⟩ := howed ⟨row, hrow, hstatus, hm, hg⟩
        rw [hended] at hphase
        cases hphase
  · intro s e s' ⟨hc, hmissed, howed⟩ ⟨hmiss, hlet⟩ hstep
    refine ⟨hc.step hstep, ?_,
      howed.step hc hmissed hcycles hmiss hlet hstep⟩
    have hnext := hmissed.step hc hmiss hstep
    split at hnext
    · exact hnext.mono (Nat.le_succ k)
    · exact hnext
  · intro past e hpast s s' hs hstep
    exact ⟨(hmisses.after hreach) past e hpast s s' hs hstep,
      (hlets.after hreach) past e hpast s s' hs hstep⟩

theorem OrphanFree.initial :
    OrphanFree (AgentState.initial : AgentState F) := by
  refine ⟨?_, ?_, ?_⟩
  · intro f labels _ hlit
    cases hlit
  · intro n job hjob
    cases hjob
  · intro m phase hphase
    cases hphase

theorem OrphanFree.of_exec {trace : List AgentEvent} {s : AgentState F}
    (hacts : EveryStep (agentStep cfg) AgentState.initial trace
      ActsOnStoredAlert)
    (hs : exec (agentStep cfg) AgentState.initial trace = some s) :
    OrphanFree s := by
  have hinvariant := exec_invariant
    (P := fun s => WellFormed cfg s ∧ OrphanFree s)
    ⟨WellFormed.initial, .initial⟩
    (fun _ _ _ h hC hstep => ⟨h.1.step hstep, h.2.step h.1 hC hstep⟩) hacts hs
  exact hinvariant.2

/-- Once the reconciliations of its minion have missed an open incident often
enough, the next poll that lets it be resolved closes its generation, whatever
the earlier polls and the workers did meanwhile; nothing is left to
investigate or deliver for it and, in a run that acts on the stored alert,
nothing of it is firing. -/
theorem recovery_is_announced (cfg : AgentSettings F)
    {past absent final : List AgentEvent} {s₀ s₁ s : AgentState F} {now : ℚ}
    (hpast : exec (agentStep cfg) AgentState.initial past = some s₀)
    (hopen : OpenAs s₀.table m f g)
    (habsent : exec (agentStep cfg) s₀ absent = some s₁)
    (hfinal : exec (agentStep cfg) s₁ (.reconcile m now :: final) = some s)
    (hmisses : EveryStep (agentStep cfg) s₀
      (absent ++ .reconcile m now :: final) (Misses cfg m f))
    (hcycles : cfg.store.resolveAfterHealthyCycles ≤
      absent.countP (reconcilesMinion m) + 1)
    (hlets : EveryStep (agentStep cfg) s₁ (.reconcile m now :: final)
      (LetsResolve m f))
    (hended : s.polls.get? m = none) :
    (∃ row, s.table.get? f = some row ∧ row.startsAt = g ∧
      row.status = .resolved) ∧
      s.queue.pending.get? f = none ∧ Quiet s f ∧
      (EveryStep (agentStep cfg) AgentState.initial
          (past ++ (absent ++ .reconcile m now :: final)) ActsOnStoredAlert →
        ∀ labels : Labels F, labels.incidentId = some f →
          isFiring s.alertmanager labels = false) := by
  have hc₀ : Coherent cfg s₀ := .of_exec hpast
  have hreach₁ : exec (agentStep cfg) AgentState.initial (past ++ absent) =
      some s₁ := by
    rw [exec_append, hpast]
    exact habsent
  have hreach : exec (agentStep cfg) AgentState.initial
      (past ++ (absent ++ .reconcile m now :: final)) = some s := by
    rw [← List.append_assoc, exec_append, hreach₁]
    exact hfinal
  have hmissed := MissedFor.of_exec hc₀ hopen
    (hmisses.of_prefix (List.prefix_append _ _)) habsent
  obtain ⟨row, hrow, hg, hclosed⟩ := closed_of_due (.of_exec hreach₁) hmissed
    hcycles (hmisses.after habsent) hlets hfinal hended
  obtain ⟨hpending, hquiet⟩ := quiet_of_closed (.of_exec hreach) hrow hclosed
  refine ⟨⟨row, hrow, hg, hclosed⟩, hpending, hquiet, ?_⟩
  intro hacts labels hlabels
  rw [Bool.eq_false_iff]
  intro hfiring
  obtain ⟨row', payload, hrow', hactive, -⟩ :=
    (OrphanFree.of_exec hacts hreach).noOrphan f hquiet labels hlabels hfiring
  obtain rfl := Option.some.inj (hrow.symm.trans hrow')
  rw [hclosed] at hactive
  cases hactive

/-- The CPU alert is delivered. -/
def deliveredCpuTrace : List AgentEvent :=
  [.startCycle ["web"] [busyCpu .warning], .reconcile "web" 0,
    .enqueueNext "web" 0, .finishMinion "web",
    .pop 0, .begin 0 1, .conclude 0 (.analysis openQuestion) 2,
    .answerPost 0 true 3, .finishDelivery 0 4, .release 0]

/-- The CPU recovers, and Alertmanager refuses the first resolution. -/
def refusedResolutionTrace : List AgentEvent :=
  [.startCycle ["web"] [], .reconcile "web" 60, .finishMinion "web",
    .startCycle ["web"] [], .reconcile "web" 120, .resolveNext "web" 120,
    .answerResolution "web" false 121, .finishResolution "web" 122,
    .finishMinion "web", .startCycle ["web"] []]

/-- It accepts the second one. -/
def acceptedResolutionTrace : List AgentEvent :=
  [.resolveNext "web" 180, .answerResolution "web" true 181,
    .finishResolution "web" 182, .finishMinion "web"]

def afterTrace (trace : List AgentEvent) : AgentState IdentityKey :=
  (exec (agentStep .plain) AgentState.initial trace).getD AgentState.initial

theorem exec_eq_afterTrace {trace : List AgentEvent}
    (h : (exec (agentStep .plain) (AgentState.initial (F := IdentityKey))
      trace).isSome) :
    exec (agentStep .plain) AgentState.initial trace =
      some (afterTrace trace) := by
  obtain ⟨s, hs⟩ := Option.isSome_iff_exists.mp h
  rw [afterTrace, hs, Option.getD_some]

/-- The alert of the CPU is no longer firing after the second resolution. -/
theorem recovery_is_announced_refused :
    isFiring (afterTrace (deliveredCpuTrace ++ (refusedResolutionTrace ++
        .reconcile "web" 180 :: acceptedResolutionTrace))).alertmanager
      (buildAlertPayload openQuestion (busyCpu .warning)
        (busyCpu .warning).identityKey (rfc3339 0)).labels = false := by
  have hpast := exec_eq_afterTrace
    (show (exec (agentStep .plain) _ deliveredCpuTrace).isSome by
      decide +kernel)
  have habsent := exec_eq_afterTrace (show (exec (agentStep .plain) _
    (deliveredCpuTrace ++ refusedResolutionTrace)).isSome by decide +kernel)
  have hfinal := exec_eq_afterTrace (show (exec (agentStep .plain) _
    (deliveredCpuTrace ++ (refusedResolutionTrace ++
      .reconcile "web" 180 :: acceptedResolutionTrace))).isSome by
        decide +kernel)
  rw [← List.append_assoc, exec_append, habsent, List.append_assoc] at hfinal
  rw [exec_append, hpast] at habsent
  have hopen : OpenAs (afterTrace deliveredCpuTrace).table "web"
      (busyCpu .warning).identityKey (rfc3339 0) := by
    obtain ⟨row, hrow, h⟩ := (Option.any_eq_true _ _).mp
      (show ((afterTrace deliveredCpuTrace).table.get?
        (busyCpu .warning).identityKey).any fun row =>
          row.status = .active ∧ row.minionId = "web" ∧
            row.startsAt = rfc3339 0 by decide +kernel)
    exact ⟨row, hrow, of_decide_eq_true h⟩
  have hrecovered := recovery_is_announced .plain hpast hopen habsent hfinal
    (everyStep_of_testSteps (fun _ _ => of_decide_eq_true) (by decide +kernel))
    (by decide +kernel)
    (everyStep_of_testSteps (fun _ _ => of_decide_eq_true) (by decide +kernel))
    (by decide +kernel)
  exact hrecovered.2.2.2
    (everyStep_of_testSteps actsOnStoredAlert_of_test (by decide +kernel)) _ rfl

end Recovered

end UyuniAgent.Agent
