import UyuniAgent.Detector.Correlation
import UyuniAgent.Incident.Generation
import UyuniAgent.Support.Run

/-!
# Detection, correlation and reconciliation over many cycles

`execute_poll_cycle` gathers the snapshots of all minions, passes their
anomalies through the correlation window and reconciles each minion with its
share of the result.  Alerts are delivered and incidents are closed at any time
in between.  A restart of the process loses the window and the cycle under way,
and keeps the store.

A snapshot carries a value of type `T` that says how it was obtained; the log
of reconciliations is no part of the program and is only written.
-/

namespace UyuniAgent.Agent

open Incident Transition DependencyCorrelationWindow

structure PollSettings (F : Type) where
  store : StoreSettings F
  correlation : CorrelationSettings

def PollSettings.plain : PollSettings IdentityKey := ⟨.plain, .plain⟩

/-- What `detect_minion` returns. -/
structure Snapshot (T : Type) where
  minion : String
  anomalies : List Anomaly
  telemetry : T

/-- The anomalies of a cycle before and after correlation. -/
structure CycleAnomalies where
  raw : List Anomaly
  edges : List DependencyEdge
  reported : List Anomaly

/-- A reconciliation of a minion, with what its cycle saw. -/
structure CycleRecord (T : Type) where
  minion : String
  telemetry : T
  cycle : CycleAnomalies

structure PollState (F T : Type) where
  window : DependencyCorrelationWindow
  clock : ℚ
  table : Table F
  cycle : CycleAnomalies
  /-- The snapshots of the cycle that are still to be reconciled. -/
  waiting : List (Snapshot T)
  /-- The reconciliations so far, latest first. -/
  log : List (CycleRecord T)

inductive PollEvent (F T : Type)
  /-- Detect, and correlate at a time of the monotonic clock. -/
  | correlate (snapshots : List (Snapshot T)) (edges : List DependencyEdge)
      (now : ℚ)
  | reconcile (minion : String) (now : ℚ)
  | markEmitted (fingerprint : F) (payload : AlertPayload F) (now : ℚ)
      (startsAt : Option Rfc3339)
  | markResolved (fingerprint : F) (now : ℚ)
  | restart

variable {F T : Type} [DecidableEq F]

def PollState.initial : PollState F T where
  window := .initial
  clock := 0
  table := OrderedDict.empty
  cycle := ⟨[], [], []⟩
  waiting := []
  log := []

/-- One snapshot for each minion, with anomalies of that minion. -/
def wellFormedSnapshots (snapshots : List (Snapshot T)) : Bool :=
  decide (snapshots.map (·.minion)).Nodup &&
    snapshots.all fun snapshot =>
      snapshot.anomalies.all (·.minionId = snapshot.minion)

/-- The share of a minion in the anomalies of the cycle. -/
def CycleAnomalies.share (cycle : CycleAnomalies) (minion : String) :
    List Anomaly :=
  cycle.reported.filter (·.minionId = minion)

def pollReport (cfg : PollSettings F) (s : PollState F T) (minion : String)
    (now : ℚ) : IncidentChanges F × Table F :=
  Incident.reconcile cfg.store s.table minion (s.cycle.share minion) now

def pollStep (cfg : PollSettings F) (s : PollState F T) :
    PollEvent F T → Option (PollState F T)
  | .correlate snapshots edges now =>
      if s.waiting.isEmpty ∧ s.clock ≤ now ∧ wellFormedSnapshots snapshots then
        let raw := snapshots.flatMap (·.anomalies)
        let (reported, window) :=
          s.window.correlate cfg.correlation raw edges now
        some { s with
          window := window
          clock := now
          cycle := ⟨raw, edges, reported⟩
          waiting := snapshots }
      else none
  | .reconcile minion now =>
      match s.waiting.find? (·.minion = minion) with
      | some snapshot =>
          some { s with
            table := (pollReport cfg s minion now).2
            waiting := s.waiting.filter (·.minion ≠ minion)
            log := ⟨minion, snapshot.telemetry, s.cycle⟩ :: s.log }
      | none => none
  | .markEmitted fingerprint payload now startsAt =>
      some { s with
        table := markEmitted s.table fingerprint payload now startsAt }
  | .markResolved fingerprint now =>
      some { s with table := markResolved s.table fingerprint now }
  | .restart => some { s with window := .initial, waiting := [] }

/-! ## Incidents resolved after a number of cycles -/

/-- The last cycles of a minion. -/
def recentCycles (log : List (CycleRecord T)) (minion : String) (n : ℕ) :
    List (CycleRecord T) :=
  (log.filter (·.minion = minion)).take n

/-- An incident is reported as resolved only after the required number of
cycles of its minion, each of which is good for it. -/
def ResolvesOnlyAfter (cfg : PollSettings F)
    (Good : CycleRecord T → F → Prop) (s : PollState F T)
    (e : PollEvent F T) : Prop :=
  ∀ m now s', e = .reconcile m now → pollStep cfg s e = some s' →
    ∀ record ∈ (pollReport cfg s m now).1.resolved,
      let recent :=
        recentCycles s'.log m cfg.store.resolveAfterHealthyCycles
      recent.length = cfg.store.resolveAfterHealthyCycles ∧
        ∀ c ∈ recent, Good c record.fingerprint

/-- A cycle that reports nothing of an open incident is good for it. -/
def MissesOnlyWhen (cfg : PollSettings F) (Good : CycleRecord T → F → Prop)
    (s : PollState F T) (e : PollEvent F T) : Prop :=
  ∀ snapshots edges now s', e = .correlate snapshots edges now →
    pollStep cfg s e = some s' →
    ∀ snapshot ∈ snapshots, ∀ f row,
      activeRow s.table snapshot.minion f = some row →
      (∀ a ∈ s'.cycle.reported, cfg.store.scheme.incidentFingerprint a ≠ f) →
      Good ⟨snapshot.minion, snapshot.telemetry, s'.cycle⟩ f

/-- The absence counter of an open incident counts good cycles. -/
structure CountsGood (cfg : PollSettings F) (Good : CycleRecord T → F → Prop)
    (s : PollState F T) : Prop where
  keyed : KeyedBy cfg.store.scheme s.table
  waiting : ∀ snapshot ∈ s.waiting, ∀ f row,
    activeRow s.table snapshot.minion f = some row →
    (∀ a ∈ s.cycle.reported, cfg.store.scheme.incidentFingerprint a ≠ f) →
    Good ⟨snapshot.minion, snapshot.telemetry, s.cycle⟩ f
  counted : ∀ f row, s.table.get? f = some row → row.status = .active →
    (recentCycles s.log row.minionId row.consecutiveAbsent).length =
        row.consecutiveAbsent ∧
      ∀ c ∈ recentCycles s.log row.minionId row.consecutiveAbsent, Good c f

/-! ## The log -/

omit [DecidableEq F] in
theorem recentCycles_cons_self (record : CycleRecord T)
    (log : List (CycleRecord T)) (n : ℕ) :
    recentCycles (record :: log) record.minion (n + 1) =
      record :: recentCycles log record.minion n := by
  simp [recentCycles]

omit [DecidableEq F] in
theorem recentCycles_cons_of_ne {log : List (CycleRecord T)}
    {record : CycleRecord T} {m : String} (hne : record.minion ≠ m) (n : ℕ) :
    recentCycles (record :: log) m n = recentCycles log m n := by
  simp [recentCycles, hne]

omit [DecidableEq F] in
/-- Fewer recent cycles are among the recent ones. -/
theorem recentCycles_of_le {log : List (CycleRecord T)} {m : String}
    {n k : ℕ} (hle : n ≤ k) (hlength : (recentCycles log m k).length = k) :
    (recentCycles log m n).length = n ∧
      ∀ c ∈ recentCycles log m n, c ∈ recentCycles log m k := by
  rw [recentCycles, List.length_take] at hlength
  constructor
  · rw [recentCycles, List.length_take]
    omega
  · intro c hc
    exact (List.take_sublist_take_left hle).subset hc

/-! ## Every step keeps the count -/

namespace CountsGood

variable {cfg : PollSettings F} {Good : CycleRecord T → F → Prop}
  {s s' : PollState F T}

theorem initial : CountsGood cfg Good PollState.initial := by
  refine ⟨?_, ?_, ?_⟩
  · intro f row hrow
    cases hrow
  · intro snapshot hsnapshot
    cases hsnapshot
  · intro f row hrow
    cases hrow

/-- An incident that is open after an operation of the store was open before
it, with the same count. -/
theorem setTable (h : CountsGood cfg Good s) {table : Table F}
    (hkeyed : KeyedBy cfg.store.scheme table)
    (hopen : ∀ f row', table.get? f = some row' → row'.status = .active →
      ∃ row, s.table.get? f = some row ∧ row.status = .active ∧
        row'.minionId = row.minionId ∧
        row'.consecutiveAbsent = row.consecutiveAbsent) :
    CountsGood cfg Good { s with table := table } := by
  refine ⟨hkeyed, ?_, ?_⟩
  · intro snapshot hsnapshot f row' hactive' hmissed
    obtain ⟨hrow', hmine'⟩ := activeRow_eq_some_iff.mp hactive'
    simp only [Row.activeFor, Bool.and_eq_true, decide_eq_true_eq] at hmine'
    obtain ⟨row, hrow, hactive, hminion, -⟩ := hopen f row' hrow' hmine'.2
    apply h.waiting snapshot hsnapshot f row _ hmissed
    apply activeRow_eq_some_iff.mpr
    refine ⟨hrow, ?_⟩
    simp [Row.activeFor, hactive, ← hminion, hmine'.1]
  · intro f row' hrow' hactive'
    obtain ⟨row, hrow, hactive, hminion, habsent⟩ := hopen f row' hrow' hactive'
    rw [hminion, habsent]
    exact h.counted f row hrow hactive

theorem markEmitted (h : CountsGood cfg Good s) (fingerprint : F)
    (payload : AlertPayload F) (now : ℚ) (startsAt : Option Rfc3339) :
    CountsGood cfg Good { s with
      table :=
        Incident.markEmitted s.table fingerprint payload now startsAt } := by
  apply h.setTable h.keyed.markEmitted
  intro f row' hrow' hactive'
  rw [Incident.markEmitted, OrderedDict.get?_mapValues] at hrow'
  obtain ⟨row, hrow, rfl⟩ := Option.map_eq_some_iff.mp hrow'
  split at hactive'
  next hwritten =>
    rw [if_pos hwritten]
    exact ⟨row, hrow, hactive', rfl, rfl⟩
  next hkept =>
    rw [if_neg hkept]
    exact ⟨row, hrow, hactive', rfl, rfl⟩

theorem markResolved (h : CountsGood cfg Good s) (fingerprint : F) (now : ℚ) :
    CountsGood cfg Good { s with
      table := Incident.markResolved s.table fingerprint now } := by
  apply h.setTable h.keyed.markResolved
  intro f row' hrow' hactive'
  rw [Incident.markResolved, OrderedDict.get?_mapValues] at hrow'
  obtain ⟨row, hrow, rfl⟩ := Option.map_eq_some_iff.mp hrow'
  split at hactive'
  · cases hactive'
  next hkept =>
    rw [if_neg hkept]
    exact ⟨row, hrow, hactive', rfl, rfl⟩

/-- What the reconciliation of a minion does not observe was not reported in
the cycle at all. -/
theorem missed_of_unobserved (h : CountsGood cfg Good s) {m : String} {f : F}
    {row : Row F} (hrow : s.table.get? f = some row) (hm : row.minionId = m)
    (hunobserved : (preferMoreSevere cfg.store (s.cycle.share m)).get? f =
      none) :
    ∀ a ∈ s.cycle.reported, cfg.store.scheme.incidentFingerprint a ≠ f := by
  intro a ha heq
  have hkey : a.identityKey = row.identityKey :=
    cfg.store.scheme.digest_injective (heq.trans (h.keyed f row hrow).symm)
  have hminion : a.minionId = m :=
    (congrArg IdentityKey.minionId hkey).trans hm
  have hshare : a ∈ s.cycle.share m := by
    simp [CycleAnomalies.share, ha, hminion]
  have hobserved := preferMoreSevere_get?_isSome_iff.mpr ⟨a, hshare, heq⟩
  rw [hunobserved] at hobserved
  cases hobserved

theorem share_carries (cycle : CycleAnomalies) (m : String) :
    ∀ a ∈ cycle.share m, a.minionId = m := by
  intro a ha
  simpa using (List.mem_filter.mp ha).2

/-- The cycle is good for what the reconciliation of its minion misses. -/
theorem good_of_missed (h : CountsGood cfg Good s) {snapshot : Snapshot T}
    (hmem : snapshot ∈ s.waiting) {f : F} {row : Row F}
    (hrow : s.table.get? f = some row)
    (hmine : row.activeFor snapshot.minion = true)
    (hunobserved :
      (preferMoreSevere cfg.store (s.cycle.share snapshot.minion)).get? f =
        none) :
    Good ⟨snapshot.minion, snapshot.telemetry, s.cycle⟩ f := by
  apply h.waiting snapshot hmem f row
  · exact activeRow_eq_some_iff.mpr ⟨hrow, hmine⟩
  · simp only [Row.activeFor, Bool.and_eq_true, decide_eq_true_eq] at hmine
    exact h.missed_of_unobserved hrow hmine.1 hunobserved

/-- The cycle of the snapshot is the latest one of its minion. -/
theorem counted_cons (h : CountsGood cfg Good s) {snapshot : Snapshot T}
    {f : F} {row : Row F} (hrow : s.table.get? f = some row)
    (hmine : row.activeFor snapshot.minion = true)
    (hgood : Good ⟨snapshot.minion, snapshot.telemetry, s.cycle⟩ f) :
    let recent := recentCycles
      (⟨snapshot.minion, snapshot.telemetry, s.cycle⟩ :: s.log) row.minionId
      (row.consecutiveAbsent + 1)
    recent.length = row.consecutiveAbsent + 1 ∧ ∀ c ∈ recent, Good c f := by
  simp only [Row.activeFor, Bool.and_eq_true, decide_eq_true_eq] at hmine
  obtain ⟨hlength, hold⟩ := h.counted f row hrow hmine.2
  rw [hmine.1] at hlength hold ⊢
  have hrecent := recentCycles_cons_self
    ⟨snapshot.minion, snapshot.telemetry, s.cycle⟩ s.log row.consecutiveAbsent
  rw [hrecent]
  constructor
  · rw [List.length_cons, hlength]
  · intro c hc
    rcases List.mem_cons.mp hc with rfl | hc
    · exact hgood
    · exact hold c hc

/-- A reconciliation opens no incident of another minion, so the cycle stays
good for the minions that still wait. -/
theorem waiting_reconcile (h : CountsGood cfg Good s) {m : String} {now : ℚ}
    {other : Snapshot T} (hother : other ∈ s.waiting) (hne : other.minion ≠ m)
    {f : F} {row' : Row F}
    (hactive' : activeRow (pollReport cfg s m now).2 other.minion f =
      some row')
    (hmissed : ∀ a ∈ s.cycle.reported,
      cfg.store.scheme.incidentFingerprint a ≠ f) :
    Good ⟨other.minion, other.telemetry, s.cycle⟩ f := by
  obtain ⟨hrow', hmine'⟩ := activeRow_eq_some_iff.mp hactive'
  simp only [Row.activeFor, Bool.and_eq_true, decide_eq_true_eq] at hmine'
  have hcase := reconcile_row h.keyed (share_carries s.cycle m) now f
  rw [pollReport] at hrow'
  rw [hrow'] at hcase
  generalize hrow : s.table.get? f = row? at hcase
  cases hcase with
  | continues row _ hcontinues =>
      apply h.waiting other hother f row _ hmissed
      apply activeRow_eq_some_iff.mpr
      refine ⟨hrow, ?_⟩
      simp [Row.activeFor, ← hcontinues.minionId, ← hcontinues.status, hmine']
  | opened _ anomaly _ _ => exact absurd hmine'.1.symm hne

/-- A reconciliation adds a good cycle to the count of what it misses, and
starts the count of what it observes anew. -/
theorem reconcile (h : CountsGood cfg Good s) {m : String} {now : ℚ}
    {snapshot : Snapshot T} (hmem : snapshot ∈ s.waiting)
    (hm : snapshot.minion = m) :
    CountsGood cfg Good { s with
      table := (pollReport cfg s m now).2
      waiting := s.waiting.filter (·.minion ≠ m)
      log := ⟨m, snapshot.telemetry, s.cycle⟩ :: s.log } := by
  subst hm
  refine ⟨h.keyed.reconcile (share_carries s.cycle snapshot.minion), ?_, ?_⟩
  · intro other hother f row' hactive' hmissed
    obtain ⟨hwaiting, hne⟩ := List.mem_filter.mp hother
    exact h.waiting_reconcile hwaiting (by simpa using hne) hactive' hmissed
  · intro f row' hrow' hactive'
    rw [pollReport, reconcile_get?] at hrow'
    rcases hobserved : (preferMoreSevere cfg.store
      (s.cycle.share snapshot.minion)).get? f with _ | anomaly
    · rw [hobserved] at hrow'
      obtain ⟨row, hrow, ⟨hmine, rfl⟩ | ⟨hother, rfl⟩⟩ :=
        reconciledRow_missed hrow'
      · exact h.counted_cons hrow hmine (h.good_of_missed hmem hrow hmine
          hobserved)
      · have hne : snapshot.minion ≠ row'.minionId := by
          intro heq
          simp [Row.activeFor, heq, hactive'] at hother
        rw [recentCycles_cons_of_ne hne]
        exact h.counted f row' hrow hactive'
    · -- an observed incident has nothing to count
      rw [hobserved] at hrow'
      rw [(reconciledRow_observed hrow').1]
      simp [recentCycles]

theorem step (h : CountsGood cfg Good s) {e : PollEvent F T}
    (hmisses : MissesOnlyWhen cfg Good s e)
    (hstep : pollStep cfg s e = some s') : CountsGood cfg Good s' := by
  rcases e with ⟨snapshots, edges, now⟩ | ⟨m, now⟩ |
    ⟨fingerprint, payload, now, startsAt⟩ | ⟨fingerprint, now⟩ | _
  · have hgood := hmisses snapshots edges now s' rfl hstep
    simp only [pollStep] at hstep
    split at hstep
    · obtain rfl := Option.some.inj hstep
      exact ⟨h.keyed, hgood, h.counted⟩
    · cases hstep
  · simp only [pollStep] at hstep
    split at hstep
    next snapshot hfind =>
      obtain rfl := Option.some.inj hstep
      have hm : snapshot.minion = m := by
        simpa using List.find?_some hfind
      exact h.reconcile (List.mem_of_find?_eq_some hfind) hm
    next => cases hstep
  · obtain rfl := Option.some.inj hstep
    exact h.markEmitted fingerprint payload now startsAt
  · obtain rfl := Option.some.inj hstep
    exact h.markResolved fingerprint now
  · obtain rfl := Option.some.inj hstep
    refine ⟨h.keyed, ?_, h.counted⟩
    intro snapshot hsnapshot
    cases hsnapshot

/-- What a reconciliation resolves has been counted often enough. -/
theorem resolvesOnlyAfter (h : CountsGood cfg Good s) (e : PollEvent F T) :
    ResolvesOnlyAfter cfg Good s e := by
  rintro m now s' rfl hstep record hrecord
  have hmisses : MissesOnlyWhen cfg Good s (.reconcile m now) := by
    intro snapshots edges now' s' heq
    cases heq
  have hafter := h.step hmisses hstep
  obtain ⟨f, row, hactive, hunobserved, hcount, rfl⟩ :=
    mem_reconcile_resolved_iff.mp hrecord
  obtain ⟨hrow, hmine⟩ := activeRow_eq_some_iff.mp hactive
  have htable : s'.table = (pollReport cfg s m now).2 := by
    simp only [pollStep] at hstep
    split at hstep
    · rw [← Option.some.inj hstep]
    · cases hstep
  have hrow' : s'.table.get? f =
      some { row with consecutiveAbsent := row.consecutiveAbsent + 1 } := by
    rw [htable, pollReport, reconcile_get?, hunobserved, hrow]
    simp [reconciledRow, hmine]
  simp only [Row.activeFor, Bool.and_eq_true, decide_eq_true_eq] at hmine
  obtain ⟨hlength, hgood⟩ := hafter.counted f _ hrow' hmine.2
  rw [hmine.1] at hlength hgood
  obtain ⟨hrecent, hsub⟩ := recentCycles_of_le hcount hlength
  exact ⟨hrecent, fun c hc => hgood c (hsub c hc)⟩

end CountsGood

/-- In every run in which a cycle that misses an open incident is good for it,
an incident is resolved only after enough good cycles. -/
theorem resolvesOnlyAfter_of_missesOnlyWhen
    {cfg : PollSettings F} {Good : CycleRecord T → F → Prop}
    {trace : List (PollEvent F T)}
    (hmisses : EveryStep (pollStep cfg) PollState.initial trace
      (MissesOnlyWhen cfg Good)) :
    EveryStep (pollStep cfg) PollState.initial trace
      (ResolvesOnlyAfter cfg Good) := by
  have hall : EveryState (pollStep cfg) PollState.initial trace
      (CountsGood cfg Good) :=
    everyState_of_everyStep CountsGood.initial
      (fun _ _ _ h hC hstep => h.step hC hstep) hmisses
  intro past e hpast s s' hs _
  have hbefore : past <+: trace := (List.prefix_append past [e]).trans hpast
  exact (hall past hbefore s hs).resolvesOnlyAfter e

end UyuniAgent.Agent
