import UyuniAgent.Agent.LostTelemetry

/-!
# What incidents rest on

A cycle without usable data may resolve an incident, but it opens none.  What a
reconciliation reports was found in the latest detection, by a check that had
usable data, or stands for two such findings of connected minions.  What the
store holds was reported by such a cycle, with the severity it had there.
-/

namespace UyuniAgent.Agent

open Incident Transition DependencyCorrelationWindow

variable {F : Type} [DecidableEq F]

/-! ## Findings of a detection -/

/-- The detection of one of the minions finds the anomaly, and its check had
usable data. -/
def Found (py : Interpreter) (config : DetectionConfig)
    (inputs : List DetectionInputs) (anomaly : Anomaly) : Prop :=
  ∃ input ∈ inputs, ∃ snapshot,
    detectMinion py config input = some snapshot ∧
      anomaly ∈ snapshot.anomalies ∧ Detected py config input anomaly

/-- The anomaly is found, or stands for two findings that may be paired. -/
def Founded (py : Interpreter) (config : DetectionConfig)
    (trafficThreshold : ℚ) (inputs : List DetectionInputs)
    (edges : List DependencyEdge) (anomaly : Anomaly) : Prop :=
  Found py config inputs anomaly ∨
    ∃ apache postgres, Found py config inputs apache ∧
      Found py config inputs postgres ∧
      pairable trafficThreshold edges apache postgres = true ∧
      anomaly = correlatedAnomaly apache postgres

/-- What the window passes on rests on the data of the cycle. -/
theorem founded_of_mem_correlate {py : Interpreter} {config : DetectionConfig}
    {cfg : CorrelationSettings} {window : DependencyCorrelationWindow}
    {inputs : List DetectionInputs} {edges : List DependencyEdge} {now : ℚ}
    {anomaly : Anomaly}
    (h : anomaly ∈ (window.correlate cfg
      ((detectedSnapshots py config inputs).flatMap (·.anomalies)) edges
      now).1) :
    Founded py config cfg.apacheTrafficThreshold inputs edges anomaly := by
  have hfound : ∀ a ∈ (detectedSnapshots py config inputs).flatMap
      (·.anomalies), Found py config inputs a := by
    intro a ha
    obtain ⟨snapshot, hsnapshot, ha⟩ := List.mem_flatMap.mp ha
    obtain ⟨input, hinput, hsome⟩ := List.mem_filterMap.mp hsnapshot
    obtain ⟨detected, hdetected, rfl⟩ := Option.map_eq_some_iff.mp hsome
    exact ⟨input, hinput, detected, hdetected, ha,
      Detected.of_mem hdetected ha⟩
  rcases mem_correlate_cases (mem_of_mem_correlate h) with hraw |
    ⟨apache, hapache, postgres, hpostgres, hpair, heq⟩
  · exact Or.inl (hfound anomaly hraw)
  · exact Or.inr ⟨apache, postgres, hfound apache hapache,
      hfound postgres hpostgres, hpair, heq⟩

/-! ## Findings of a run -/

/-- The inputs and the edges of a detection. -/
def WatchEvent.detection? :
    WatchEvent F → Option (List DetectionInputs × List DependencyEdge)
  | .detect inputs edges _ => some (inputs, edges)
  | _ => none

def latestDetection (past : List (WatchEvent F)) :
    Option (List DetectionInputs × List DependencyEdge) :=
  (past.filterMap WatchEvent.detection?).getLast?

/-- The anomaly rests on the data of the latest detection of the run. -/
def FoundedLast (py : Interpreter) (config : DetectionConfig)
    (cfg : PollSettings F) (past : List (WatchEvent F)) (anomaly : Anomaly) :
    Prop :=
  ∃ inputs edges, latestDetection past = some (inputs, edges) ∧
    Founded py config cfg.correlation.apacheTrafficThreshold inputs edges
      anomaly

/-- The row has the identity and the severity of the anomaly. -/
def Remembers (row : Row F) (anomaly : Anomaly) : Prop :=
  row.identityKey = anomaly.identityKey ∧
    row.severity = anomaly.severity.value

/-- Some cycle of the run reported what the row holds, on the data of its
detection. -/
def RowFounded (py : Interpreter) (config : DetectionConfig)
    (cfg : PollSettings F) (past : List (WatchEvent F)) (row : Row F) : Prop :=
  ∃ before, before <+: past ∧ ∃ anomaly,
    FoundedLast py config cfg before anomaly ∧ Remembers row anomaly

section Rows

variable {py : Interpreter} {config : DetectionConfig} {cfg : PollSettings F}
  {past : List (WatchEvent F)} {row row' : Row F} {anomaly : Anomaly}

omit [DecidableEq F] in
theorem latestDetection_concat {e : WatchEvent F} (h : e.detection? = none) :
    latestDetection (past ++ [e]) = latestDetection past := by
  rw [latestDetection, List.filterMap_append, List.filterMap_cons_none h,
    List.filterMap_nil, List.append_nil, latestDetection]

omit [DecidableEq F] in
theorem FoundedLast.concat (h : FoundedLast py config cfg past anomaly)
    {e : WatchEvent F} (he : e.detection? = none) :
    FoundedLast py config cfg (past ++ [e]) anomaly := by
  rwa [FoundedLast, latestDetection_concat he]

omit [DecidableEq F] in
theorem RowFounded.concat (h : RowFounded py config cfg past row)
    (e : WatchEvent F) : RowFounded py config cfg (past ++ [e]) row := by
  obtain ⟨before, hbefore, hfounded⟩ := h
  exact ⟨before, hbefore.trans (List.prefix_append past [e]), hfounded⟩

omit [DecidableEq F] in
/-- A row that keeps its identity and its severity keeps its origin. -/
theorem RowFounded.of_same (h : RowFounded py config cfg past row)
    (hkey : row'.identityKey = row.identityKey)
    (hseverity : row'.severity = row.severity) :
    RowFounded py config cfg past row' := by
  obtain ⟨before, hbefore, anomaly, hfounded, hremembers⟩ := h
  exact ⟨before, hbefore, anomaly, hfounded, hkey.trans hremembers.1,
    hseverity.trans hremembers.2⟩

/-- A reconciliation keeps a row, or writes what it observes. -/
theorem reconcile_remembers {store : StoreSettings F} {table : Table F}
    {minion : String} {anomalies : List Anomaly} {now : ℚ} {f : F}
    (hkeyed : KeyedBy store.scheme table)
    (hcarries : ∀ a ∈ anomalies, a.minionId = minion)
    (hrow' : (Incident.reconcile store table minion anomalies now).2.get? f =
      some row') :
    (∃ row, table.get? f = some row ∧ row'.identityKey = row.identityKey ∧
      row'.severity = row.severity) ∨
    ∃ anomaly ∈ anomalies, Remembers row' anomaly := by
  rw [reconcile_get?] at hrow'
  rcases hobserved : (preferMoreSevere store anomalies).get? f with _ | anomaly
  · rw [hobserved] at hrow'
    obtain ⟨row, hrow, ⟨-, rfl⟩ | ⟨-, rfl⟩⟩ := reconciledRow_missed hrow'
    · exact Or.inl ⟨row, hrow, rfl, rfl⟩
    · exact Or.inl ⟨row', hrow, rfl, rfl⟩
  · obtain ⟨hmem, hf⟩ := mem_of_preferMoreSevere_get? hobserved
    refine Or.inr ⟨anomaly, hmem, ?_⟩
    rcases hrow : table.get? f with _ | row
    · rw [hobserved, hrow] at hrow'
      obtain rfl := Option.some.inj hrow'
      refine ⟨?_, rfl⟩
      rw [← hcarries anomaly hmem]
      rfl
    · have hkey : row.identityKey = anomaly.identityKey :=
        store.scheme.digest_injective ((hkeyed f row hrow).trans hf.symm)
      rw [hobserved, hrow, reconciledRow] at hrow'
      split at hrow'
      · obtain rfl := Option.some.inj hrow'
        exact ⟨hkey, rfl⟩
      · obtain rfl := Option.some.inj hrow'
        exact ⟨hkey, rfl⟩

end Rows

/-! ## Every step rests on data -/

/-- The state after a run, and where its parts come from. -/
structure Sourced (py : Interpreter) (config : DetectionConfig)
    (cfg : PollSettings F) (past : List (WatchEvent F))
    (s : PollState F DetectionInputs) : Prop where
  keyed : KeyedBy cfg.store.scheme s.table
  reported : ∀ a ∈ s.cycle.reported, FoundedLast py config cfg past a
  rows : ∀ f row, s.table.get? f = some row →
    RowFounded py config cfg past row

namespace Sourced

variable {py : Interpreter} {config : DetectionConfig} {cfg : PollSettings F}
  {past : List (WatchEvent F)} {s s' : PollState F DetectionInputs}

theorem initial : Sourced py config cfg [] PollState.initial := by
  refine ⟨?_, ?_, ?_⟩
  · intro f row hrow
    cases hrow
  · intro a ha
    cases ha
  · intro f row hrow
    cases hrow

/-- An operation on single rows that keeps their identities and severities. -/
theorem mapValues (h : Sourced py config cfg past s) {e : WatchEvent F}
    (he : e.detection? = none) {g : F → Row F → Row F}
    (hg : ∀ f row, (g f row).identityKey = row.identityKey ∧
      (g f row).severity = row.severity) :
    Sourced py config cfg (past ++ [e])
      { s with table := s.table.mapValues g } := by
  have hrows : ∀ f row', (s.table.mapValues g).get? f = some row' →
      ∃ row, s.table.get? f = some row ∧
        row'.identityKey = row.identityKey ∧ row'.severity = row.severity := by
    intro f row' hrow'
    rw [OrderedDict.get?_mapValues] at hrow'
    obtain ⟨row, hrow, rfl⟩ := Option.map_eq_some_iff.mp hrow'
    exact ⟨row, hrow, hg f row⟩
  refine ⟨?_, fun a ha => (h.reported a ha).concat he, ?_⟩
  · intro f row' hrow'
    obtain ⟨row, hrow, hkey, -⟩ := hrows f row' hrow'
    rw [hkey]
    exact h.keyed f row hrow
  · intro f row' hrow'
    obtain ⟨row, hrow, hkey, hseverity⟩ := hrows f row' hrow'
    exact ((h.rows f row hrow).of_same hkey hseverity).concat e

theorem reconcile (h : Sourced py config cfg past s) {minion : String}
    {now : ℚ} {waiting : List (Snapshot DetectionInputs)}
    {log : List (CycleRecord DetectionInputs)} :
    Sourced py config cfg (past ++ [.reconcile minion now]) { s with
      table := (pollReport cfg s minion now).2
      waiting := waiting
      log := log } := by
  have hcarries := CountsGood.share_carries s.cycle minion
  refine ⟨h.keyed.reconcile hcarries,
    fun a ha => (h.reported a ha).concat rfl, ?_⟩
  intro f row' hrow'
  rcases reconcile_remembers h.keyed hcarries hrow' with
    ⟨row, hrow, hkey, hseverity⟩ | ⟨anomaly, hmem, hremembers⟩
  · exact ((h.rows f row hrow).of_same hkey hseverity).concat _
  · have hreported : anomaly ∈ s.cycle.reported := List.mem_of_mem_filter hmem
    exact ⟨past, List.prefix_append past _, anomaly,
      h.reported anomaly hreported, hremembers⟩

theorem step (h : Sourced py config cfg past s) {e : WatchEvent F}
    (hstep : watchStep py config cfg s e = some s') :
    Sourced py config cfg (past ++ [e]) s' := by
  rcases e with ⟨inputs, edges, now⟩ | ⟨minion, now⟩ |
    ⟨fingerprint, payload, now, startsAt⟩ | ⟨fingerprint, now⟩ | _
  · simp only [watchStep, WatchEvent.poll, pollStep] at hstep
    split at hstep
    · obtain rfl := Option.some.inj hstep
      refine ⟨h.keyed, ?_, fun f row hrow => (h.rows f row hrow).concat _⟩
      intro a ha
      refine ⟨inputs, edges, ?_, founded_of_mem_correlate ha⟩
      simp [latestDetection, WatchEvent.detection?]
    · cases hstep
  · simp only [watchStep, WatchEvent.poll, pollStep] at hstep
    split at hstep
    · obtain rfl := Option.some.inj hstep
      exact h.reconcile
    · cases hstep
  · obtain rfl := Option.some.inj hstep
    apply h.mapValues rfl
    intro f row
    split
    · exact ⟨rfl, rfl⟩
    · exact ⟨rfl, rfl⟩
  · obtain rfl := Option.some.inj hstep
    apply h.mapValues rfl
    intro f row
    split
    · exact ⟨rfl, rfl⟩
    · exact ⟨rfl, rfl⟩
  · obtain rfl := Option.some.inj hstep
    exact ⟨h.keyed, fun a ha => (h.reported a ha).concat rfl,
      fun f row hrow => (h.rows f row hrow).concat _⟩

end Sourced

end UyuniAgent.Agent
