import UyuniAgent.Agent.AnnouncedDetection
import UyuniAgent.Agent.Exclusion

/-!
# Restarts

The process may end at any await point of any of its coroutines.  A new process
finds the database as it was, and Alertmanager keeps the alerts it accepted;
the queue, the workers and the polls of the old process are gone.  A POST that
is on its way at that moment has been accepted before it or never is.

The runs here mix such restarts with the steps of a live process, with polls
that exceed their deadline and with workers that are cancelled.
-/

namespace UyuniAgent.Agent

open Incident Queue Transition

variable {F : Type} [DecidableEq F]

inductive LifeEvent
  | cycle (e : CycleEvent)
  | restart
  deriving DecidableEq

/-- What a new process starts from. -/
def AgentState.restarted (s : AgentState F) : AgentState F :=
  { AgentState.initial with
    table := s.table
    alertmanager := s.alertmanager }

def lifeStep (cfg : AgentSettings F) (s : AgentState F) :
    LifeEvent → Option (AgentState F)
  | .cycle e => cycleStep cfg s e
  | .restart => some s.restarted

/-- A dry run has a database of its own. -/
def LifeEvent.live : LifeEvent → Bool
  | .cycle (.resolveDry _ _) | .cycle (.deliverDry _ _ _) => false
  | _ => true

/-- The worker is ended from outside. -/
def LifeEvent.ends : LifeEvent → ℕ → Prop
  | .cycle (.crash n' _), n | .cycle (.lose n'), n => n' = n
  | .restart, _ => True
  | _, _ => False

def UsesStoredAlert (s : AgentState F) : LifeEvent → Prop
  | .cycle (.agent e) => ActsOnStoredAlert s e
  | _ => True

/-- No worker is ended between the acceptance of its alert and the note of it
in the database, unless the row stores an alert with the same labels. -/
def LosesNoDelivery (s : AgentState F) (e : LifeEvent) : Prop :=
  ∀ n job payload, e.ends n → s.workers.get? n = some job →
    job.phase = .firingAnswered payload true →
    isFiring s.alertmanager payload.labels = true →
    StoredAlert s.table job.fingerprint payload.labels

/-! ## What survives -/

section Survival

variable {cfg : AgentSettings F} {s s' : AgentState F} {e : LifeEvent}

theorem Coherent.restarted (h : Coherent cfg s) :
    Coherent cfg s.restarted := by
  refine ⟨h.keyed, InvestigationQueue.consistent_initial, ?_, ?_, ?_, ?_, ?_⟩
  · intro f item hitem
    cases hitem
  · intro n job hjob
    cases hjob
  · intro n job hjob
    cases hjob
  · intro n n' job job' hjob
    cases hjob
  · intro m phase hphase
    cases hphase

theorem Coherent.lifeStep (h : Coherent cfg s)
    (hstep : lifeStep cfg s e = some s') : Coherent cfg s' := by
  rcases e with e | _
  · exact h.cycleStep hstep
  · obtain rfl := Option.some.inj hstep
    exact h.restarted

theorem Addressed.restarted (h : Addressed s) : Addressed s.restarted := by
  refine ⟨h.row, ?_, ?_, ?_, ?_⟩
  · intro f item hitem
    cases hitem
  · intro n job hjob
    cases hjob
  · intro n job hjob
    cases hjob
  · intro m phase hphase
    cases hphase

theorem Addressed.lifeStep (hc : Coherent cfg s) (h : Addressed s)
    (hlive : e.live = true) (hstep : lifeStep cfg s e = some s') :
    Addressed s' := by
  rcases e with e | _
  · have hcycle : cycleStep cfg s e = some s' := hstep
    rcases e with e | m | ⟨m, now⟩ | ⟨n, analysis, now⟩ | ⟨n, cancelled⟩ | n | _
    · exact Addressed.step hc h hcycle
    · obtain rfl := step_abandon hcycle
      exact h.erasePoll m
    · cases hlive
    · cases hlive
    · obtain ⟨job, -, rfl⟩ := step_crash hcycle
      rcases cancelled with _ | _
      · exact (h.eraseWorker n).setQueue h.pending
      · exact (h.eraseWorker n).setQueue h.pending
    · obtain rfl := step_lose hcycle
      exact h.eraseWorker n
    · obtain rfl := Option.some.inj hcycle
      exact h.setQueue h.pending
  · obtain rfl := Option.some.inj hstep
    exact h.restarted

theorem WellFormed.lifeStep (h : WellFormed cfg s) (hlive : e.live = true)
    (hstep : lifeStep cfg s e = some s') : WellFormed cfg s' :=
  ⟨h.coherent.lifeStep hstep,
    Addressed.lifeStep h.coherent h.addressed hlive hstep⟩

end Survival

/-! ## Orphans -/

section Orphans

variable {cfg : AgentSettings F} {s s' : AgentState F} {e : LifeEvent}

/-- Deliveries may end once the row stores their labels. -/
theorem Accounted.of_ended (h : Accounted s) (hc : Coherent cfg s)
    (htable : s'.table = s.table) (hposts : s'.alertmanager = s.alertmanager)
    (hfewer : ∀ f payload, Delivering s' f payload → Delivering s f payload)
    (hnoted : ∀ f payload, Delivering s f payload →
      isFiring s.alertmanager payload.labels = true →
      Delivering s' f payload ∨ StoredAlert s.table f payload.labels) :
    Accounted s' := by
  intro f labels hlabels hfiring
  rw [hposts] at hfiring
  rw [htable]
  rcases h f labels hlabels hfiring with ⟨payload, hpayload, rfl⟩ |
    ⟨hnone, hstored⟩
  · by_cases hstill : Delivering s' f payload
    · exact Or.inl ⟨payload, hstill, rfl⟩
    · refine Or.inr ⟨fun payload' hpayload' => hstill ?_, ?_⟩
      · rwa [hpayload.unique hc (hfewer f payload' hpayload')]
      · exact (hnoted f payload hpayload hfiring).resolve_left hstill
  · exact Or.inr ⟨fun payload hpayload =>
      hnone payload (hfewer f payload hpayload), hstored⟩

/-- A worker is ended, and leaves nothing behind that no row stores. -/
theorem OrphanFree.endWorker (h : OrphanFree s) (hc : Coherent cfg s) {n : ℕ}
    {queue : InvestigationQueue F (InvestigationWork F)}
    (hnoted : ∀ job payload, s.workers.get? n = some job →
      job.phase = .firingAnswered payload true →
      isFiring s.alertmanager payload.labels = true →
      StoredAlert s.table job.fingerprint payload.labels) :
    OrphanFree { s with
      queue := queue
      workers := s.workers.erase n } := by
  refine ⟨h.accounted.of_ended hc rfl rfl ?_ ?_,
    OrderedDict.forall_erase h.transition, h.resolution⟩
  · rintro f payload ⟨n', job, hjob, hdelivers⟩
    exact ⟨n', job, (OrderedDict.get?_erase_cases hjob).2, hdelivers⟩
  · rintro f payload ⟨n', job, hjob, rfl, hphase⟩ hfiring
    by_cases hn : n' = n
    · subst hn
      exact Or.inr (hnoted job payload hjob hphase hfiring)
    · exact Or.inl ⟨n', job, (OrderedDict.get?_erase_of_ne hn).trans hjob, rfl,
        hphase⟩

theorem OrphanFree.restarted (h : OrphanFree s) (hc : Coherent cfg s)
    (hnoted : ∀ n job payload, s.workers.get? n = some job →
      job.phase = .firingAnswered payload true →
      isFiring s.alertmanager payload.labels = true →
      StoredAlert s.table job.fingerprint payload.labels) :
    OrphanFree s.restarted := by
  refine ⟨h.accounted.of_ended hc rfl rfl ?_ ?_, ?_, ?_⟩
  · rintro f payload ⟨n, job, hjob, -⟩
    cases hjob
  · rintro f payload ⟨n, job, hjob, rfl, hphase⟩ hfiring
    exact Or.inr (hnoted n job payload hjob hphase hfiring)
  · intro n job hjob
    cases hjob
  · intro m phase hphase
    cases hphase

theorem OrphanFree.lifeStep (h : OrphanFree s) (hw : WellFormed cfg s)
    (hlive : e.live = true) (huses : UsesStoredAlert s e)
    (hnoted : LosesNoDelivery s e) (hstep : lifeStep cfg s e = some s') :
    OrphanFree s' := by
  rcases e with e | _
  · have hcycle : cycleStep cfg s e = some s' := hstep
    rcases e with e | m | ⟨m, now⟩ | ⟨n, analysis, now⟩ | ⟨n, cancelled⟩ | n | _
    · exact OrphanFree.step h hw huses hcycle
    · obtain rfl := step_abandon hcycle
      exact h.transport (fun _ hlit => hlit) (fun _ _ hstored => hstored)
        (fun _ _ => Iff.rfl) h.transition
        (OrderedDict.forall_erase h.resolution)
    · cases hlive
    · cases hlive
    · obtain ⟨job, -, rfl⟩ := step_crash hcycle
      exact h.endWorker hw.coherent fun job payload => hnoted n job payload rfl
    · obtain rfl := step_lose hcycle
      exact h.endWorker hw.coherent fun job payload => hnoted n job payload rfl
    · obtain rfl := Option.some.inj hcycle
      exact h.transport (fun _ hlit => hlit) (fun _ _ hstored => hstored)
        (fun _ _ => Iff.rfl) h.transition h.resolution
  · obtain rfl := Option.some.inj hstep
    exact h.restarted hw.coherent fun n job payload =>
      hnoted n job payload trivial

/-- The end of a worker changes neither the table nor Alertmanager, and leaves
nobody at work on the incident. -/
theorem quiet_of_ends (hc : Coherent cfg s) {n : ℕ} {job : Job F}
    (hends : e.ends n) (hjob : s.workers.get? n = some job)
    (hstep : lifeStep cfg s e = some s') :
    s'.table = s.table ∧ s'.alertmanager = s.alertmanager ∧
      Quiet s' job.fingerprint := by
  have hothers : ∀ n' job', (s.workers.erase n).get? n' = some job' →
      job'.fingerprint ≠ job.fingerprint := by
    intro n' job' hjob' hf
    obtain ⟨hne, hold⟩ := OrderedDict.get?_erase_cases hjob'
    exact hne (hc.job_unique n' n job' job hold hjob hf)
  have hpolls : ∀ m phase, s.polls.get? m = some phase →
      phase.resolving ≠ some job.fingerprint := by
    intro m phase hphase hresolving
    exact (hc.idle_of_resolving ⟨m, phase, hphase, hresolving⟩).2
      (hc.job_inFlight n job hjob)
  rcases e with e | _
  · have hcycle : cycleStep cfg s e = some s' := hstep
    rcases e with e | m | ⟨m, now⟩ | ⟨n', analysis, now⟩ | ⟨n', cancelled⟩ |
      n' | _
    · exact hends.elim
    · exact hends.elim
    · exact hends.elim
    · exact hends.elim
    · obtain rfl : n' = n := hends
      obtain ⟨job', -, rfl⟩ := step_crash hcycle
      exact ⟨rfl, rfl, hothers, hpolls⟩
    · obtain rfl : n' = n := hends
      obtain rfl := step_lose hcycle
      exact ⟨rfl, rfl, hothers, hpolls⟩
    · exact hends.elim
  · obtain rfl := Option.some.inj hstep
    refine ⟨rfl, rfl, fun n' job' hjob' => ?_, fun m phase hphase => ?_⟩
    · cases hjob'
    · cases hphase

/-- In a run with restarts, missed deadlines and cancelled workers whose steps
act on the stored alert, no alert is orphaned if and only if no worker is ended
between the acceptance of its alert and the note of it in the database. -/
theorem no_orphan_iff_loses_no_delivery (cfg : AgentSettings F)
    (trace : List LifeEvent) (hlive : ∀ e ∈ trace, e.live = true)
    (huses : EveryStep (lifeStep cfg) AgentState.initial trace
      UsesStoredAlert) :
    EveryState (lifeStep cfg) AgentState.initial trace NoOrphan ↔
      EveryStep (lifeStep cfg) AgentState.initial trace LosesNoDelivery := by
  have hlives : EveryStep (lifeStep cfg) AgentState.initial trace
      fun (_ : AgentState F) e => e.live = true := EveryStep.of_forall_mem hlive
  constructor
  · intro hall past e hpast s s' hs he n job payload hends hjob hphase hfiring
    have hw : WellFormed cfg s :=
      exec_invariant WellFormed.initial
        (fun _ _ _ h hl hstep => h.lifeStep hl hstep)
        (hlives.of_prefix ((List.prefix_append past [e]).trans hpast)) hs
    obtain ⟨htable, hposts, hquiet⟩ :=
      quiet_of_ends hw.coherent hends hjob he
    have haddressed := hw.addressed.phase n job hjob
    rw [hphase] at haddressed
    have hno := hall.after_step hpast hs he
    rw [← hposts] at hfiring
    rw [← htable]
    exact hno job.fingerprint hquiet payload.labels haddressed.1.incidentId
      hfiring
  · intro hnoted
    have hinvariant : EveryState (lifeStep cfg) AgentState.initial trace
        fun s => WellFormed cfg s ∧ OrphanFree s := by
      refine everyState_of_everyStep
        (C := fun s e => e.live = true ∧ UsesStoredAlert s e ∧
          LosesNoDelivery s e)
        ⟨WellFormed.initial, .initial⟩ ?_ ?_
      · intro s e s' h hC hstep
        exact ⟨h.1.lifeStep hC.1 hstep,
          h.2.lifeStep h.1 hC.1 hC.2.1 hC.2.2 hstep⟩
      · intro past e hpast s s' hs he
        exact ⟨hlives past e hpast s s' hs he, huses past e hpast s s' hs he,
          hnoted past e hpast s s' hs he⟩
    intro past hpast s hs
    exact (hinvariant past hpast s hs).2.noOrphan

/-- A test of `UsesStoredAlert`. -/
def testsUsedAlert (s : AgentState F) : LifeEvent → Bool
  | .cycle (.agent e) => testsStoredAlert s e
  | _ => true

def Job.awaitsNote (job : Job F) : Bool :=
  match job.phase with
  | .firingAnswered _ true => true
  | _ => false

/-- A test of `LosesNoDelivery` that takes no stored alert into account. -/
def testsNoDelivery (s : AgentState F) : LifeEvent → Bool
  | .cycle (.crash n _) | .cycle (.lose n) =>
      (s.workers.get? n).all fun job => !job.awaitsNote
  | .restart => s.workers.entries.all fun entry => !entry.2.awaitsNote
  | _ => true

theorem usesStoredAlert_of_test (s : AgentState F) (e : LifeEvent)
    (h : testsUsedAlert s e = true) : UsesStoredAlert s e := by
  rcases e with e | _
  · cases e with
    | agent e => exact actsOnStoredAlert_of_test s e h
    | _ => trivial
  · trivial

theorem losesNoDelivery_of_test (s : AgentState F) (e : LifeEvent)
    (h : testsNoDelivery s e = true) : LosesNoDelivery s e := by
  intro n job payload hends hjob hphase
  have hawaits : job.awaitsNote = true := by simp [Job.awaitsNote, hphase]
  rcases e with e | _
  · rcases e with e | m | ⟨m, now⟩ | ⟨n', analysis, now⟩ | ⟨n', cancelled⟩ |
      n' | _
    all_goals try exact hends.elim
    · obtain rfl : n' = n := hends
      simp [testsNoDelivery, hjob, hawaits] at h
    · obtain rfl : n' = n := hends
      simp [testsNoDelivery, hjob, hawaits] at h
  · have hmem := OrderedDict.get?_eq_some_iff.mp hjob
    have hsilent := List.all_eq_true.mp h _ hmem
    simp [hawaits] at hsilent

def LifeEvent.agentTrace (trace : List AgentEvent) : List LifeEvent :=
  trace.map fun e => .cycle (.agent e)

/-- The process ends while a worker investigates the CPU, and once more after
the alert is delivered; then the CPU recovers. -/
def repeatedRestarts : List LifeEvent :=
  LifeEvent.agentTrace [.startCycle ["web"] [busyCpu .warning],
      .reconcile "web" 0, .enqueueNext "web" 0, .pop 0, .begin 0 1] ++
    [.restart] ++ LifeEvent.agentTrace deliveredCpuTrace ++ [.restart] ++
    LifeEvent.agentTrace (refusedResolutionTrace ++
      .reconcile "web" 180 :: acceptedResolutionTrace)

theorem no_orphan_iff_loses_no_delivery_restarted :
    (exec (lifeStep .plain) AgentState.initial repeatedRestarts).isSome ∧
      EveryState (lifeStep .plain) AgentState.initial repeatedRestarts
        NoOrphan := by
  refine ⟨by decide +kernel, ?_⟩
  have huses : EveryStep (lifeStep .plain) AgentState.initial repeatedRestarts
      UsesStoredAlert :=
    everyStep_of_testSteps usesStoredAlert_of_test (by decide +kernel)
  have hloses : EveryStep (lifeStep .plain) AgentState.initial repeatedRestarts
      LosesNoDelivery :=
    everyStep_of_testSteps losesNoDelivery_of_test (by decide +kernel)
  exact (no_orphan_iff_loses_no_delivery .plain repeatedRestarts
    (by decide +kernel) huses).mpr hloses

end Orphans

/-! ## Notifications that are still due -/

/-- The incident whose delivery the step notes in the database: Alertmanager
has accepted its alert, or the process runs dry and the incident is still
current. -/
def LifeEvent.notes (s : AgentState F) : LifeEvent → Option F
  | .cycle (.agent (.finishDelivery n _)) =>
      (s.workers.get? n).bind fun job =>
        if job.awaitsNote then some job.work.firing.fingerprint else none
  | .cycle (.deliverDry n _ _) =>
      (s.workers.get? n).bind fun job =>
        if job.actionable s.table then some job.work.firing.fingerprint
        else none
  | _ => none

/-- The next reconciliation that observes the incident like this lists it. -/
def NotificationDue (cfg : StoreSettings F) (table : Table F) (m : String)
    (f : F) (anomaly : Anomaly) (now : ℚ) : Prop :=
  ∀ row, activeRow table m f = some row →
    row.notifiable cfg anomaly now = true

section Due

variable {cfg : StoreSettings F} {table : Table F} {m m' : String} {f f' : F}
  {anomaly anomaly' : Anomaly} {anomalies : List Anomaly} {now now' : ℚ}

omit [DecidableEq F] in
/-- What is due stays due, for an observation as severe as the first. -/
theorem Row.notifiable_mono {row : Row F}
    (h : row.notifiable cfg anomaly now = true)
    (hsevere : severityRank anomaly.severity.value ≤
      severityRank anomaly'.severity.value)
    (hnow : now ≤ now') : row.notifiable cfg anomaly' now' = true := by
  simp only [Row.notifiable, Bool.or_eq_true, decide_eq_true_eq] at h ⊢
  rcases h with hescalated | helapsed
  · exact Or.inl (hescalated.trans_le hsevere)
  · right
    rcases hemitted : row.lastEmitted with _ | lastEmitted
    · rfl
    · rw [hemitted] at helapsed
      simp only [decide_eq_true_eq] at helapsed ⊢
      linarith

omit [DecidableEq F] in
theorem Row.notifiable_of_unsent {row : Row F} (h : row.lastEmitted = none) :
    row.notifiable cfg anomaly now = true := by
  simp [Row.notifiable, h]

omit [DecidableEq F] in
/-- A row that a reconciliation leaves active keeps what was noted in it, or
begins a generation with nothing noted. -/
theorem reconciledRow_active {anomaly? : Option Anomaly}
    {row? : Option (Row F)} {row' : Row F}
    (h : reconciledRow m' now' anomaly? row? = some row')
    (hactive : row'.activeFor m = true) :
    row'.lastEmitted = none ∨
      ∃ row, row? = some row ∧ row.activeFor m = true ∧
        row'.lastEmitted = row.lastEmitted ∧
        row'.lastEmittedSeverity = row.lastEmittedSeverity := by
  rcases anomaly? with _ | anomaly
  · obtain ⟨row, hrow, ⟨-, rfl⟩ | ⟨-, rfl⟩⟩ := reconciledRow_missed h
    · exact Or.inr ⟨row, hrow, hactive, rfl, rfl⟩
    · exact Or.inr ⟨row', hrow, hactive, rfl, rfl⟩
  · rcases row? with _ | row
    · obtain rfl := Option.some.inj h
      exact Or.inl rfl
    · simp only [reconciledRow] at h
      split at h
      · obtain rfl := Option.some.inj h
        exact Or.inr ⟨row, rfl, hactive, rfl, rfl⟩
      · obtain rfl := Option.some.inj h
        exact Or.inl rfl

theorem NotificationDue.reconcile
    (h : NotificationDue cfg table m f anomaly now) :
    NotificationDue cfg
      (Incident.reconcile cfg table m' anomalies now').2 m f anomaly now := by
  intro row' hrow'
  obtain ⟨hget, hactive⟩ := activeRow_eq_some_iff.mp hrow'
  rw [reconcile_get?] at hget
  rcases reconciledRow_active hget hactive with
    hunsent | ⟨row, hrow, hmine, hemitted, hseverity⟩
  · exact Row.notifiable_of_unsent hunsent
  · have hdue := h row (activeRow_eq_some_iff.mpr ⟨hrow, hmine⟩)
    rwa [Row.notifiable, hemitted, hseverity]

theorem NotificationDue.of_get? {table' : Table F}
    (h : NotificationDue cfg table m f anomaly now)
    (hsame : table'.get? f = table.get? f) :
    NotificationDue cfg table' m f anomaly now := by
  intro row hrow
  rw [activeRow, hsame] at hrow
  exact h row hrow

theorem NotificationDue.markResolved
    (h : NotificationDue cfg table m f anomaly now) :
    NotificationDue cfg (Incident.markResolved table f' now') m f anomaly
      now := by
  by_cases hf : f = f'
  · subst hf
    intro row hrow
    obtain ⟨hget, hactive⟩ := activeRow_eq_some_iff.mp hrow
    simp [Row.activeFor, (markResolved_get?_self hget).1] at hactive
  · exact h.of_get? (markResolved_get?_of_ne hf)

/-- The reconciliation that lists an incident leaves its notification due. -/
theorem notificationDue_of_listed {incident : FiringIncident F}
    (hlisted : incident ∈
      (Incident.reconcile cfg table m anomalies now).1.firing) :
    NotificationDue cfg (Incident.reconcile cfg table m anomalies now).2 m
      incident.fingerprint incident.anomaly now := by
  obtain ⟨f, anomaly, hobserved, hfiring⟩ := mem_reconcile_firing_iff.mp hlisted
  obtain rfl : incident.fingerprint = f := firingFor_fingerprint hfiring
  rcases hbefore : activeRow table m incident.fingerprint with _ | row₀
  · have hdue : NotificationDue cfg table m incident.fingerprint
        incident.anomaly now := by
      intro row hrow
      rw [hbefore] at hrow
      cases hrow
    exact hdue.reconcile
  · rw [hbefore] at hfiring
    simp only [firingFor] at hfiring
    split at hfiring
    next hnotifiable =>
      have hsame : incident.anomaly = anomaly := by
        rw [← Option.some.inj hfiring]
      have hdue : NotificationDue cfg table m incident.fingerprint
          incident.anomaly now := by
        intro row hrow
        obtain rfl := Option.some.inj (hbefore.symm.trans hrow)
        rwa [hsame]
      exact hdue.reconcile
    next => cases hfiring

/-- A reconciliation lists what is due. -/
theorem NotificationDue.listed
    (h : NotificationDue cfg table m f anomaly now)
    (hmem : anomaly' ∈ anomalies)
    (hkey : cfg.scheme.incidentFingerprint anomaly' = f)
    (hsevere : severityRank anomaly.severity.value ≤
      severityRank anomaly'.severity.value)
    (hnow : now ≤ now') :
    ∃ incident ∈ (Incident.reconcile cfg table m anomalies now').1.firing,
      incident.fingerprint = f := by
  obtain ⟨chosen, hchosen⟩ := Option.isSome_iff_exists.mp
    (preferMoreSevere_get?_isSome_iff.mpr ⟨anomaly', hmem, hkey⟩)
  have hmost : severityRank anomaly'.severity.value ≤
      severityRank chosen.severity.value := by
    have hfirst := hchosen
    rw [preferMoreSevere_get?] at hfirst
    refine (firstMostSevere_spec hfirst).2 anomaly' ?_
    simp [observationsOf, hmem, hkey]
  rcases hactive : activeRow table m f with _ | row
  · exact ⟨_, mem_reconcile_firing_iff.mpr ⟨f, chosen, hchosen, by
      rw [hactive]; rfl⟩, rfl⟩
  · have hnotifiable : row.notifiable cfg chosen now' = true :=
      Row.notifiable_mono (h row hactive) (hsevere.trans hmost) hnow
    exact ⟨_, mem_reconcile_firing_iff.mpr ⟨f, chosen, hchosen, by
      rw [hactive, firingFor, if_pos hnotifiable]⟩, rfl⟩

end Due

section DueLife

variable {cfg : AgentSettings F} {s s' : AgentState F} {e : LifeEvent}
  {m : String} {f : F} {anomaly : Anomaly} {now : ℚ}

/-- Only the note of a delivery settles what is due. -/
theorem NotificationDue.lifeStep
    (h : NotificationDue cfg.store s.table m f anomaly now)
    (hnotes : e.notes s ≠ some f) (hstep : lifeStep cfg s e = some s') :
    NotificationDue cfg.store s'.table m f anomaly now := by
  have hother : ∀ f' payload now' startsAt, f' ≠ f →
      NotificationDue cfg.store (markEmitted s.table f' payload now' startsAt)
        m f anomaly now := by
    intro f' payload now' startsAt hne
    exact h.of_get? (markEmitted_get?_of_ne hne.symm)
  rcases e with e | _
  · have hcycle : cycleStep cfg s e = some s' := hstep
    rcases e with e | m' | ⟨m', now'⟩ | ⟨n, analysis, now'⟩ | ⟨n, cancelled⟩ |
      n | _
    · have hagent : agentStep cfg s e = some s' := hcycle
      have htable := tableStep hagent
      generalize s'.table = table' at htable ⊢
      cases htable with
      | reconcile _ _ _ _ => exact h.reconcile
      | markResolved _ _ _ _ => exact h.markResolved
      | markEmitted n now' job payload startsAt hjob hphase =>
          refine hother _ payload now' startsAt ?_
          rintro rfl
          exact hnotes (by simp [LifeEvent.notes, hjob, Job.awaitsNote, hphase])
      | same _ _ => exact h
    · obtain rfl := step_abandon hcycle
      exact h
    · obtain ⟨incident, resolved, firing, -, hcases⟩ := step_resolveDry hcycle
      rcases hcases with ⟨-, rfl⟩ | ⟨-, rfl⟩
      · exact h
      · exact h.markResolved
    · obtain ⟨job, hjob, rfl⟩ := step_deliverDry hcycle
      unfold Job.deliverDry
      split
      next hactionable =>
        refine hother _ _ now' _ ?_
        rintro rfl
        exact hnotes (by simp [LifeEvent.notes, hjob, hactionable])
      next => exact h
    · obtain ⟨job, -, rfl⟩ := step_crash hcycle
      exact h
    · obtain rfl := step_lose hcycle
      exact h
    · obtain rfl := Option.some.inj hcycle
      exact h
  · obtain rfl := Option.some.inj hstep
    exact h

/-- An incident that a reconciliation lists for notification is listed by
every later one that observes it no less severe, whatever becomes of the
process and its work in between, until a delivery of it is noted. -/
theorem due_notification_is_listed_again (cfg : AgentSettings F)
    {window : List LifeEvent} {s₀ s₁ s : AgentState F}
    {anomalies later : List Anomaly} {incident : FiringIncident F}
    {now now' : ℚ} {anomaly : Anomaly}
    (hpoll₀ : s₀.polls.get? m = some (.reconciling anomalies))
    (hlisted : incident ∈
      (Incident.reconcile cfg.store s₀.table m anomalies now).1.firing)
    (hstep : lifeStep cfg s₀ (.cycle (.agent (.reconcile m now))) = some s₁)
    (hwindow : exec (lifeStep cfg) s₁ window = some s)
    (hnotes : EveryStep (lifeStep cfg) s₁ window
      fun s e => e.notes s ≠ some incident.fingerprint)
    (hpoll : s.polls.get? m = some (.reconciling later))
    (hmem : anomaly ∈ later)
    (hkey : cfg.store.scheme.incidentFingerprint anomaly =
      incident.fingerprint)
    (hsevere : severityRank incident.anomaly.severity.value ≤
      severityRank anomaly.severity.value)
    (hnow : now ≤ now')
    (hagain : lifeStep cfg s (.cycle (.agent (.reconcile m now'))) =
      some s') :
    ∃ phase, s'.polls.get? m = some phase ∧
      incident.fingerprint ∈ phase.toEnqueue := by
  obtain ⟨anomalies', hpoll', rfl⟩ := step_reconcile hstep
  obtain rfl : anomalies = anomalies' :=
    PollPhase.reconciling.inj (Option.some.inj (hpoll₀.symm.trans hpoll'))
  have hdue : NotificationDue cfg.store s.table m incident.fingerprint
      incident.anomaly now :=
    exec_invariant
      (P := fun s => NotificationDue cfg.store s.table m incident.fingerprint
        incident.anomaly now)
      (notificationDue_of_listed hlisted)
      (fun _ _ _ h hC hstep => h.lifeStep hC hstep) hnotes hwindow
  obtain ⟨later', hpoll'', rfl⟩ := step_reconcile hagain
  obtain rfl : later = later' :=
    PollPhase.reconciling.inj (Option.some.inj (hpoll.symm.trans hpoll''))
  obtain ⟨again, hagain, hf⟩ := hdue.listed hmem hkey hsevere hnow
  exact ⟨_, OrderedDict.get?_set_self,
    List.mem_map.mpr ⟨again, hagain, hf⟩⟩

/-- Alertmanager refuses the alert, and accepts it after the next poll; the
process ends before the note. -/
def forgottenDelivery : List LifeEvent :=
  LifeEvent.agentTrace [.enqueueNext "web" 0, .finishMinion "web", .pop 0,
      .begin 0 1, .conclude 0 (.analysis openQuestion) 2,
      .answerPost 0 false 3, .finishDelivery 0 4, .release 0,
      .startCycle ["web"] [busyCpu .warning], .reconcile "web" 30,
      .enqueueNext "web" 30, .finishMinion "web", .pop 0, .begin 0 31,
      .conclude 0 (.analysis openQuestion) 32, .answerPost 0 true 33] ++
    [.restart, .cycle (.agent (.startCycle ["web"] [busyCpu .warning]))]

def afterLife (trace : List LifeEvent) : AgentState IdentityKey :=
  (exec (lifeStep .plain) AgentState.initial trace).getD AgentState.initial

theorem exec_eq_afterLife {trace : List LifeEvent}
    (h : (exec (lifeStep .plain) (AgentState.initial (F := IdentityKey))
      trace).isSome) :
    exec (lifeStep .plain) AgentState.initial trace =
      some (afterLife trace) := by
  obtain ⟨s, hs⟩ := Option.isSome_iff_exists.mp h
  rw [afterLife, hs, Option.getD_some]

def observedCpu : List LifeEvent :=
  [.cycle (.agent (.startCycle ["web"] [busyCpu .warning]))]

/-- The new process lists the incident again. -/
theorem due_notification_is_listed_again_forgotten :
    ∃ phase, (afterLife (observedCpu ++
        [.cycle (.agent (.reconcile "web" 0))] ++ forgottenDelivery ++
        [.cycle (.agent (.reconcile "web" 60))])).polls.get? "web" =
          some phase ∧
      (busyCpu .warning).identityKey ∈ phase.toEnqueue := by
  have hstart := exec_eq_afterLife (show (exec (lifeStep .plain) _
    observedCpu).isSome by decide +kernel)
  have hstep := exec_eq_afterLife (show (exec (lifeStep .plain) _
    (observedCpu ++ [.cycle (.agent (.reconcile "web" 0))])).isSome by
      decide +kernel)
  have hwindow := exec_eq_afterLife (show (exec (lifeStep .plain) _
    (observedCpu ++ [.cycle (.agent (.reconcile "web" 0))] ++
      forgottenDelivery)).isSome by decide +kernel)
  have hagain := exec_eq_afterLife (show (exec (lifeStep .plain) _
    (observedCpu ++ [.cycle (.agent (.reconcile "web" 0))] ++
      forgottenDelivery ++ [.cycle (.agent (.reconcile "web" 60))])).isSome by
        decide +kernel)
  rw [exec_concat, hwindow, Option.bind_some] at hagain
  rw [exec_append, hstep, Option.bind_some] at hwindow
  rw [exec_concat, hstart, Option.bind_some] at hstep
  have hlisted : (⟨busyCpu .warning, (busyCpu .warning).identityKey,
      rfc3339 0, none⟩ : FiringIncident IdentityKey) ∈
        (Incident.reconcile StoreSettings.plain (afterLife observedCpu).table
          "web" [busyCpu .warning] 0).1.firing := by decide +kernel
  have hmem : busyCpu .warning ∈ [busyCpu .warning] := List.mem_singleton_self _
  exact due_notification_is_listed_again .plain (by decide +kernel) hlisted
    hstep hwindow
    (everyStep_of_testSteps (fun _ _ => of_decide_eq_true) (by decide +kernel))
    (by decide +kernel) hmem rfl le_rfl (by norm_num) hagain

end DueLife

/-! ## Resolutions that are still due -/

/-- The reconciliations of the minion do not observe the incident. -/
def LifeEvent.Misses (cfg : AgentSettings F) (m : String) (f : F)
    (s : AgentState F) : LifeEvent → Prop
  | .cycle (.agent e) => Agent.Misses cfg m f s e
  | _ => True

section DueResolution

variable {cfg : AgentSettings F} {s s' : AgentState F} {e : LifeEvent}
  {m : String} {f : F} {g : Rfc3339} {k : ℕ}

theorem MissedFor.lifeStep (h : MissedFor s.table m f g k)
    (hc : Coherent cfg s) (hmisses : e.Misses cfg m f s)
    (hstep : lifeStep cfg s e = some s') : MissedFor s'.table m f g k := by
  rcases e with e | _
  · have hcycle : cycleStep cfg s e = some s' := hstep
    rcases e with e | m' | ⟨m', now'⟩ | ⟨n, analysis, now'⟩ | ⟨n, cancelled⟩ |
      n | _
    · refine (h.step hc hmisses hcycle).mono ?_
      split
      · exact Nat.le_succ k
      · exact le_rfl
    · obtain rfl := step_abandon hcycle
      exact h
    · obtain ⟨incident, resolved, firing, -, hcases⟩ := step_resolveDry hcycle
      rcases hcases with ⟨-, rfl⟩ | ⟨-, rfl⟩
      · exact h
      · exact h.markResolved
    · obtain ⟨job, -, rfl⟩ := step_deliverDry hcycle
      unfold Job.deliverDry
      split
      · exact h.markEmitted
      · exact h
    · obtain ⟨job, -, rfl⟩ := step_crash hcycle
      exact h
    · obtain rfl := step_lose hcycle
      exact h
    · obtain rfl := Option.some.inj hcycle
      exact h
  · obtain rfl := Option.some.inj hstep
    exact h

/-- An incident that a reconciliation lists for resolution has been missed
often enough, and stays so. -/
theorem missedFor_of_listed {cfg : StoreSettings F} {table : Table F}
    {anomalies : List Anomaly} {now : ℚ} {record : IncidentRecord F}
    (hlisted : record ∈
      (Incident.reconcile cfg table m anomalies now).1.resolved) :
    MissedFor (Incident.reconcile cfg table m anomalies now).2 m
      record.fingerprint record.startsAt cfg.resolveAfterHealthyCycles := by
  obtain ⟨f, row, hactive, hunobserved, habsent, rfl⟩ :=
    mem_reconcile_resolved_iff.mp hlisted
  obtain ⟨hrow, hmine⟩ := activeRow_eq_some_iff.mp hactive
  have hafter : (Incident.reconcile cfg table m anomalies now).2.get? f =
      some { row with consecutiveAbsent := row.consecutiveAbsent + 1 } := by
    rw [reconcile_get?, hrow, hunobserved, reconciledRow, if_pos hmine]
  simp only [Row.activeFor, Bool.and_eq_true, decide_eq_true_eq] at hmine
  exact ⟨_, hafter, hmine.1, rfl, fun _ => habsent⟩

/-- A reconciliation that misses an open incident lists it for resolution when
it has been missed often enough before. -/
theorem MissedFor.listed {cfg : StoreSettings F} {table : Table F}
    {anomalies : List Anomaly} {now : ℚ} (h : MissedFor table m f g k)
    (hcycles : cfg.resolveAfterHealthyCycles ≤ k + 1)
    (hopen : OpenAs table m f g)
    (hmissed : ∀ a ∈ anomalies, cfg.scheme.incidentFingerprint a ≠ f) :
    ∃ record ∈ (Incident.reconcile cfg table m anomalies now).1.resolved,
      record.fingerprint = f := by
  obtain ⟨row, hrow, hm, -, hk⟩ := h
  obtain ⟨row', hrow', hactive, -⟩ := hopen
  obtain rfl := Option.some.inj (hrow.symm.trans hrow')
  refine ⟨_, mem_reconcile_resolved_iff.mpr ⟨f, row, ?_,
    preferMoreSevere_get?_of_missed hmissed, ?_, rfl⟩, rfl⟩
  · refine activeRow_eq_some_iff.mpr ⟨hrow, ?_⟩
    simp [Row.activeFor, hm, hactive]
  · exact hcycles.trans (Nat.succ_le_succ (hk hactive))

/-- An incident that a reconciliation lists for resolution is listed by every
later one of its minion, whatever becomes of the process and its work in
between, until it is observed again or its generation is closed. -/
theorem due_resolution_is_listed_again (cfg : AgentSettings F)
    {past window : List LifeEvent} {s₀ s₁ s : AgentState F}
    {anomalies later : List Anomaly} {record : IncidentRecord F} {now now' : ℚ}
    (hpast : exec (lifeStep cfg) AgentState.initial past = some s₀)
    (hpoll₀ : s₀.polls.get? m = some (.reconciling anomalies))
    (hlisted : record ∈
      (Incident.reconcile cfg.store s₀.table m anomalies now).1.resolved)
    (hstep : lifeStep cfg s₀ (.cycle (.agent (.reconcile m now))) = some s₁)
    (hwindow : exec (lifeStep cfg) s₁ window = some s)
    (hmisses : EveryStep (lifeStep cfg) s₁ window
      fun s e => e.Misses cfg m record.fingerprint s)
    (hopen : OpenAs s.table m record.fingerprint record.startsAt)
    (hpoll : s.polls.get? m = some (.reconciling later))
    (hmissed : ∀ a ∈ later,
      cfg.store.scheme.incidentFingerprint a ≠ record.fingerprint)
    (hagain : lifeStep cfg s (.cycle (.agent (.reconcile m now'))) =
      some s') :
    ∃ phase, s'.polls.get? m = some phase ∧
      record.fingerprint ∈ phase.toResolve := by
  have hc₀ : Coherent cfg s₀ :=
    exec_invariant_always Coherent.initial
      (fun _ _ _ h hstep => h.lifeStep hstep) hpast
  have hc₁ : Coherent cfg s₁ := hc₀.lifeStep hstep
  obtain ⟨anomalies', hpoll', rfl⟩ := step_reconcile hstep
  obtain rfl : anomalies = anomalies' :=
    PollPhase.reconciling.inj (Option.some.inj (hpoll₀.symm.trans hpoll'))
  have hinvariant := exec_invariant
    (P := fun s => Coherent cfg s ∧ MissedFor s.table m record.fingerprint
      record.startsAt cfg.store.resolveAfterHealthyCycles)
    ⟨hc₁, missedFor_of_listed hlisted⟩
    (fun _ _ _ h hC hstep => ⟨h.1.lifeStep hstep, h.2.lifeStep h.1 hC hstep⟩)
    hmisses hwindow
  obtain ⟨later', hpoll'', rfl⟩ := step_reconcile hagain
  obtain rfl : later = later' :=
    PollPhase.reconciling.inj (Option.some.inj (hpoll.symm.trans hpoll''))
  obtain ⟨again, hlistedAgain, hf⟩ :=
    hinvariant.2.listed (Nat.le_succ _) hopen hmissed
  exact ⟨_, OrderedDict.get?_set_self,
    List.mem_map.mpr ⟨again, hlistedAgain, hf⟩⟩

/-- The CPU alert is delivered, and the CPU recovers. -/
def recoveringCpu : List LifeEvent :=
  LifeEvent.agentTrace (deliveredCpuTrace ++
    [.startCycle ["web"] [], .reconcile "web" 60, .finishMinion "web",
      .startCycle ["web"] []])

/-- The process ends while the resolution is on its way. -/
def interruptedResolution : List LifeEvent :=
  LifeEvent.agentTrace [.resolveNext "web" 120] ++
    [.restart, .cycle (.agent (.startCycle ["web"] []))]

instance (m : String) (f : IdentityKey) (s : AgentState IdentityKey) :
    DecidablePred (LifeEvent.Misses .plain m f s)
  | .cycle (.agent e) => inferInstanceAs (Decidable (Misses .plain m f s e))
  | .cycle (.abandon _) | .cycle (.resolveDry _ _)
  | .cycle (.deliverDry _ _ _) | .cycle (.crash _ _) | .cycle (.lose _)
  | .cycle .closeQueue | .restart => isTrue trivial

/-- The new process lists the incident for resolution again. -/
theorem due_resolution_is_listed_again_interrupted :
    ∃ phase, (afterLife (recoveringCpu ++
        [.cycle (.agent (.reconcile "web" 120))] ++ interruptedResolution ++
        [.cycle (.agent (.reconcile "web" 180))])).polls.get? "web" =
          some phase ∧
      (busyCpu .warning).identityKey ∈ phase.toResolve := by
  have hstart := exec_eq_afterLife (show (exec (lifeStep .plain) _
    recoveringCpu).isSome by decide +kernel)
  have hstep := exec_eq_afterLife (show (exec (lifeStep .plain) _
    (recoveringCpu ++ [.cycle (.agent (.reconcile "web" 120))])).isSome by
      decide +kernel)
  have hwindow := exec_eq_afterLife (show (exec (lifeStep .plain) _
    (recoveringCpu ++ [.cycle (.agent (.reconcile "web" 120))] ++
      interruptedResolution)).isSome by decide +kernel)
  have hagain := exec_eq_afterLife (show (exec (lifeStep .plain) _
    (recoveringCpu ++ [.cycle (.agent (.reconcile "web" 120))] ++
      interruptedResolution ++
      [.cycle (.agent (.reconcile "web" 180))])).isSome by decide +kernel)
  rw [exec_concat, hwindow, Option.bind_some] at hagain
  rw [exec_append, hstep, Option.bind_some] at hwindow
  rw [exec_concat, hstart, Option.bind_some] at hstep
  obtain ⟨record, hrecord, h⟩ := List.any_eq_true.mp
    (show (Incident.reconcile StoreSettings.plain
      (afterLife recoveringCpu).table "web" [] 120).1.resolved.any fun record =>
        record.fingerprint = (busyCpu .warning).identityKey ∧
          record.startsAt = rfc3339 0 by decide +kernel)
  obtain ⟨hf, hg⟩ := of_decide_eq_true h
  have hopen : OpenAs (afterLife (recoveringCpu ++
      [.cycle (.agent (.reconcile "web" 120))] ++ interruptedResolution)).table
      "web" (busyCpu .warning).identityKey (rfc3339 0) := by
    obtain ⟨row, hrow, hopen⟩ := (Option.any_eq_true _ _).mp
      (show ((afterLife (recoveringCpu ++
        [.cycle (.agent (.reconcile "web" 120))] ++
          interruptedResolution)).table.get?
            (busyCpu .warning).identityKey).any fun row =>
          row.status = .active ∧ row.minionId = "web" ∧
            row.startsAt = rfc3339 0 by decide +kernel)
    exact ⟨row, hrow, of_decide_eq_true hopen⟩
  rw [← hf, ← hg] at hopen
  rw [← hf]
  refine due_resolution_is_listed_again .plain hstart (by decide +kernel)
    hrecord hstep hwindow ?_ hopen (by decide +kernel)
    (fun _ ha => absurd ha List.not_mem_nil) hagain
  rw [hf]
  exact everyStep_of_testSteps (fun _ _ => of_decide_eq_true)
    (by decide +kernel)

end DueResolution

end UyuniAgent.Agent
