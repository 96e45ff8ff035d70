import UyuniAgent.Detector.Conservation
import UyuniAgent.Support.Run

/-!
# The grace period

A candidate that stays is held until the grace period has passed since its
first sighting.  A call with a chain shows every candidate and forgets all
first sightings, so the grace period of a candidate that stays begins again
with the call after it.
-/

namespace UyuniAgent

namespace DependencyCorrelationWindow

/-! ## One call -/

/-- The call returns a chain: two of its anomalies belong together, or one of
them is a chain already. -/
def HasChain (cfg : CorrelationSettings) (edges : List DependencyEdge)
    (anomalies : List Anomaly) : Prop :=
  HasPair edges cfg.apacheTrafficThreshold anomalies ∨
    ∃ anomaly ∈ anomalies, anomaly.metricName = "postgres_apache_chain"

/-- The result shows the identity, itself or inside of a chain. -/
def Shows (cfg : CorrelationSettings) (edges : List DependencyEdge)
    (anomalies result : List Anomaly) (key : IdentityKey) : Prop :=
  (∃ anomaly ∈ result, anomaly.identityKey = key) ∨
    ∃ apache ∈ anomalies, ∃ postgres ∈ anomalies,
      pairable cfg.apacheTrafficThreshold edges apache postgres = true ∧
        correlatedAnomaly apache postgres ∈ result ∧
        (apache.identityKey = key ∨ postgres.identityKey = key)

/-- When the window saw the candidate first, if it sees it now. -/
def sighting (window : DependencyCorrelationWindow) (key : IdentityKey)
    (now : ℚ) : ℚ :=
  (window.firstSeen.get? key).getD now

section Call

variable {cfg : CorrelationSettings} {window : DependencyCorrelationWindow}
  {edges : List DependencyEdge} {anomalies : List Anomaly} {now : ℚ}
  {key : IdentityKey}

theorem any_chain_iff :
    (correlateDependencyAnomalies anomalies edges
        cfg.apacheTrafficThreshold).any
          (·.metricName = "postgres_apache_chain") = true ↔
      HasChain cfg edges anomalies := by
  by_cases hpair : HasPair edges cfg.apacheTrafficThreshold anomalies
  · obtain ⟨pair, hselected⟩ :=
      Option.ne_none_iff_exists'.mp (selectedPair_ne_none_iff.mpr hpair)
    exact iff_of_true (any_chain_of_pair hselected) (Or.inl hpair)
  · rw [correlate_eq_self_iff.mpr hpair, List.any_eq_true, HasChain,
      or_iff_right hpair]
    simp only [decide_eq_true_eq]

/-- A candidate of the call is one of its anomalies. -/
theorem exists_of_mem_candidateKeys
    (hkey : key ∈ candidateKeys cfg edges anomalies) :
    ∃ anomaly ∈ anomalies, anomaly.identityKey = key := by
  obtain ⟨anomaly, hmem, rfl⟩ := List.mem_map.mp hkey
  exact ⟨anomaly, (List.mem_filter.mp hmem).1, rfl⟩

/-- Everything that a call with a chain is given is in its output. -/
theorem shows_of_hasChain (hchain : HasChain cfg edges anomalies)
    (hkey : key ∈ candidateKeys cfg edges anomalies) :
    Shows cfg edges anomalies
      (window.correlate cfg anomalies edges now).1 key := by
  obtain ⟨anomaly, hmem, rfl⟩ := exists_of_mem_candidateKeys hkey
  rw [correlate_of_chain (any_chain_iff.mpr hchain)]
  rcases hpair : selectedPair anomalies edges cfg.apacheTrafficThreshold with
    _ | pair
  · rw [correlate_of_no_pair hpair]
    exact Or.inl ⟨anomaly, hmem, rfl⟩
  · obtain ⟨i, hi⟩ := List.mem_iff_getElem?.mp hmem
    obtain ⟨apache, postgres, hapache, hpostgres, hpairable, hresult⟩ :=
      correlate_of_pair hpair
    by_cases hout : i ≠ pair.1 ∧ i ≠ pair.2
    · rw [hresult]
      exact Or.inl ⟨anomaly, mem_absorbPair hi hout, rfl⟩
    · refine Or.inr ⟨apache, List.mem_of_getElem? hapache, postgres,
        List.mem_of_getElem? hpostgres, hpairable, ?_, ?_⟩
      · rw [hresult]
        exact correlated_mem_absorbPair ⟨_, hapache⟩ ⟨_, hpostgres⟩
      · rw [not_and_or, not_not, not_not] at hout
        rcases hout with rfl | rfl
        · exact Or.inl (by rw [Option.some.inj (hapache.symm.trans hi)])
        · exact Or.inr (by rw [Option.some.inj (hpostgres.symm.trans hi)])

/-- Without a chain a candidate is held during the grace period. -/
theorem holds_iff (hchain : ¬HasChain cfg edges anomalies) {anomaly : Anomaly}
    (hkey : anomaly.identityKey ∈ candidateKeys cfg edges anomalies) :
    holds cfg window anomalies edges now anomaly = true ↔
      cfg.graceSeconds ≠ 0 ∧
        now - sighting window anomaly.identityKey now < cfg.graceSeconds := by
  have hnone := Bool.eq_false_iff.mpr (mt any_chain_iff.mp hchain)
  rw [holds, hnone]
  simp [hkey, sighting]

theorem shows_iff_of_not_hasChain (hchain : ¬HasChain cfg edges anomalies)
    (hkey : key ∈ candidateKeys cfg edges anomalies) :
    Shows cfg edges anomalies (window.correlate cfg anomalies edges now).1
        key ↔
      cfg.graceSeconds = 0 ∨
        cfg.graceSeconds ≤ now - sighting window key now := by
  have hpair : ¬HasPair edges cfg.apacheTrafficThreshold anomalies :=
    fun hpair => hchain (Or.inl hpair)
  rw [(correlate_of_not_hasPair hpair).1]
  constructor
  · rintro (⟨anomaly, hmem, rfl⟩ |
      ⟨apache, happ, postgres, hpost, hpairable, -, -⟩)
    · have hfree := (List.mem_filter.mp hmem).2
      rw [Bool.not_eq_true', Bool.eq_false_iff, ne_eq, holds_iff hchain hkey,
        not_and_or, not_not, not_lt] at hfree
      exact hfree
    · exact absurd ⟨apache, happ, postgres, hpost, hpairable⟩ hpair
  · intro hfree
    obtain ⟨anomaly, hmem, rfl⟩ := exists_of_mem_candidateKeys hkey
    refine Or.inl ⟨anomaly, List.mem_filter.mpr ⟨hmem, ?_⟩, rfl⟩
    rw [Bool.not_eq_true', Bool.eq_false_iff, ne_eq, holds_iff hchain hkey,
      not_and_or, not_not, not_lt]
    exact hfree

/-- The first sightings after the loop. -/
theorem holdCandidates_firstSeen {keys : List IdentityKey}
    {firstSeen : OrderedDict IdentityKey ℚ} (hgrace : cfg.graceSeconds ≠ 0)
    (hkey : key ∈ keys) :
    (holdCandidates cfg keys now firstSeen anomalies).2.1.get? key =
      if ∃ anomaly ∈ anomalies, anomaly.identityKey = key then
        some ((firstSeen.get? key).getD now)
      else firstSeen.get? key := by
  induction anomalies generalizing firstSeen with
  | nil => simp [holdCandidates]
  | cons first rest ih =>
      by_cases hfirst : first.identityKey ∈ keys
      · have hloop : (holdCandidates cfg keys now firstSeen
            (first :: rest)).2.1 = (holdCandidates cfg keys now
              (firstSeen.set first.identityKey
                ((firstSeen.get? first.identityKey).getD now)) rest).2.1 := by
          simp only [holdCandidates, hfirst, hgrace, not_true_eq_false,
            or_self, if_false]
          split
          · rfl
          · rfl
        rw [hloop, ih, OrderedDict.get?_set]
        by_cases hsame : first.identityKey = key
        · simp [hsame]
        · simp [hsame, Ne.symm hsame]
      · have hloop : (holdCandidates cfg keys now firstSeen
            (first :: rest)).2.1 =
              (holdCandidates cfg keys now firstSeen rest).2.1 := by
          simp only [holdCandidates, hfirst, not_false_eq_true, true_or,
            if_true]
        have hne : first.identityKey ≠ key := by
          rintro rfl
          exact hfirst hkey
        rw [hloop, ih]
        simp [hne]

/-- After a call with a chain nothing is remembered. -/
theorem get?_correlate_of_hasChain (hchain : HasChain cfg edges anomalies) :
    (window.correlate cfg anomalies edges now).2.firstSeen.get? key = none := by
  rw [correlate_of_chain (any_chain_iff.mpr hchain)]
  rfl

/-- After a call without one a candidate has been seen. -/
theorem get?_correlate_of_candidate (hgrace : cfg.graceSeconds ≠ 0)
    (hchain : ¬HasChain cfg edges anomalies)
    (hkey : key ∈ candidateKeys cfg edges anomalies) :
    (window.correlate cfg anomalies edges now).2.firstSeen.get? key =
      some (sighting window key now) := by
  have hnone := Bool.eq_false_iff.mpr (mt any_chain_iff.mp hchain)
  simp only [correlate, hnone, Bool.false_eq_true, if_false]
  rw [holdCandidates_firstSeen hgrace hkey,
    if_pos (exists_of_mem_candidateKeys hkey), OrderedDict.get?_filter,
    sighting]
  rcases window.firstSeen.get? key with _ | seen
  · rfl
  · simp [Option.filter, hkey]

/-- The loop sets a sighting only where there is none. -/
theorem holdCandidates_firstSeen_cases {keys : List IdentityKey}
    {firstSeen : OrderedDict IdentityKey ℚ} {seen : ℚ}
    (h : (holdCandidates cfg keys now firstSeen anomalies).2.1.get? key =
      some seen) :
    seen = now ∨ firstSeen.get? key = some seen := by
  induction anomalies generalizing firstSeen with
  | nil => exact Or.inr h
  | cons first rest ih =>
      simp only [holdCandidates] at h
      split at h
      · exact ih h
      · have hrest : (holdCandidates cfg keys now
            (firstSeen.set first.identityKey
              ((firstSeen.get? first.identityKey).getD now)) rest).2.1.get?
                key = some seen := by
          split at h
          · exact h
          · exact h
        rcases ih hrest with hnow | hset
        · exact Or.inl hnow
        · rw [OrderedDict.get?_set] at hset
          split at hset
          next heq =>
            rw [heq]
            rcases hseen : firstSeen.get? first.identityKey with _ | before
            · rw [hseen] at hset
              exact Or.inl (Option.some.inj hset).symm
            · rw [hseen] at hset
              exact Or.inr hset
          next => exact Or.inr hset

/-- A call remembers its own time, or what was remembered before it. -/
theorem get?_correlate_cases {seen : ℚ}
    (h : (window.correlate cfg anomalies edges now).2.firstSeen.get? key =
      some seen) :
    seen = now ∨ window.firstSeen.get? key = some seen := by
  by_cases hchain : HasChain cfg edges anomalies
  · rw [get?_correlate_of_hasChain hchain] at h
    cases h
  · have hnone := Bool.eq_false_iff.mpr (mt any_chain_iff.mp hchain)
    simp only [correlate, hnone, Bool.false_eq_true, if_false] at h
    rcases holdCandidates_firstSeen_cases h with hnow | hbefore
    · exact Or.inl hnow
    · rw [OrderedDict.get?_filter, Option.filter_eq_some_iff] at hbefore
      exact Or.inr hbefore.1

end Call

/-! ## Every run -/

/-- The window after a sequence of calls, each with its anomalies and its
time. -/
def windowAfter (cfg : CorrelationSettings) (edges : List DependencyEdge) :
    List (List Anomaly × ℚ) → DependencyCorrelationWindow :=
  Transition.stateAfter
    (fun window call => window.correlate cfg call.1 edges call.2) initial

/-- The output of the call that comes after others. -/
def outputOf (cfg : CorrelationSettings) (edges : List DependencyEdge)
    (earlier : List (List Anomaly × ℚ)) (call : List Anomaly × ℚ) :
    List Anomaly :=
  ((windowAfter cfg edges earlier).correlate cfg call.1 edges call.2).1

/-- The identity has been a candidate in all calls of some time, and the first
of them is a grace period older than the last one. -/
structure Overdue (cfg : CorrelationSettings) (edges : List DependencyEdge)
    (key : IdentityKey) (past during : List (List Anomaly × ℚ))
    (last : List Anomaly × ℚ) : Prop where
  ordered : (past ++ (during ++ [last])).Pairwise
    fun call later => call.2 ≤ later.2
  stays : ∀ call ∈ during ++ [last], key ∈ candidateKeys cfg edges call.1
  due : ∀ start ∈ (during ++ [last]).head?,
    start.2 + cfg.graceSeconds ≤ last.2

/-- Every chain among the calls was followed by a call that is a grace period
older than the last one. -/
def ChainsLongAgo (cfg : CorrelationSettings) (edges : List DependencyEdge)
    (calls : List (List Anomaly × ℚ)) (last : ℚ) : Prop :=
  ∀ before chained next after, calls = before ++ chained :: next :: after →
    HasChain cfg edges chained.1 → next.2 + cfg.graceSeconds ≤ last

section Run

variable {cfg : CorrelationSettings} {edges : List DependencyEdge}
  {key : IdentityKey}

theorem windowAfter_concat (earlier : List (List Anomaly × ℚ))
    (call : List Anomaly × ℚ) :
    windowAfter cfg edges (earlier ++ [call]) =
      ((windowAfter cfg edges earlier).correlate cfg call.1 edges call.2).2 :=
  Transition.stateAfter_concat _ _ _ _

/-- Where nothing was remembered, what is remembered later is the time of a
call since then. -/
theorem exists_call_of_seen {earlier calls : List (List Anomaly × ℚ)}
    (hnone : (windowAfter cfg edges earlier).firstSeen.get? key = none)
    {seen : ℚ}
    (h : (windowAfter cfg edges (earlier ++ calls)).firstSeen.get? key =
      some seen) :
    ∃ call ∈ calls, call.2 = seen := by
  induction calls using List.reverseRecOn with
  | nil =>
      rw [List.append_nil, hnone] at h
      cases h
  | append_singleton calls call ih =>
      rw [← List.append_assoc, windowAfter_concat] at h
      rcases get?_correlate_cases h with hnow | hbefore
      · exact ⟨call, by simp, hnow.symm⟩
      · obtain ⟨earlierCall, hmem, htime⟩ := ih hbefore
        exact ⟨earlierCall, List.mem_append_left _ hmem, htime⟩

/-- The sighting of a candidate is the time of a call since nothing was
remembered, or the present one. -/
theorem exists_call_of_sighting {earlier calls : List (List Anomaly × ℚ)}
    (hnone : (windowAfter cfg edges earlier).firstSeen.get? key = none)
    (last : List Anomaly × ℚ) :
    ∃ call ∈ calls ++ [last],
      call.2 = sighting (windowAfter cfg edges (earlier ++ calls)) key
        last.2 := by
  rw [sighting]
  rcases hseen : (windowAfter cfg edges (earlier ++ calls)).firstSeen.get? key
    with _ | seen
  · exact ⟨last, by simp, rfl⟩
  · obtain ⟨call, hmem, htime⟩ := exists_call_of_seen hnone hseen
    exact ⟨call, List.mem_append_left _ hmem, htime⟩

variable {past during : List (List Anomaly × ℚ)} {last : List Anomaly × ℚ}

/-- While the candidate stays and no late chain intervenes, its sighting is a
grace period older than the last call. -/
theorem sighting_le_of_chainsLongAgo
    (hoverdue : Overdue cfg edges key past during last)
    (hgrace : cfg.graceSeconds ≠ 0)
    (hchains : ChainsLongAgo cfg edges (during ++ [last]) last.2)
    {before after : List (List Anomaly × ℚ)} {call : List Anomaly × ℚ}
    (hcalls : during ++ [last] = before ++ call :: after) :
    sighting (windowAfter cfg edges (past ++ before)) key call.2 +
      cfg.graceSeconds ≤ last.2 := by
  induction before using List.reverseRecOn generalizing call after with
  | nil =>
      have hordered := hoverdue.ordered
      have hdue := hoverdue.due
      rw [hcalls] at hordered hdue
      -- the sighting is no later than the first call of the candidate
      obtain ⟨earlier, hmem, htime⟩ :=
        @exists_call_of_sighting cfg edges key [] past rfl call
      have hle : earlier.2 ≤ call.2 := by
        rcases List.mem_append.mp hmem with hpast | hlast
        · exact (List.pairwise_append.mp hordered).2.2 earlier hpast call
            List.mem_cons_self
        · obtain rfl := List.mem_singleton.mp hlast
          exact le_rfl
      rw [List.nil_append] at htime
      have hstart := hdue call rfl
      rw [List.append_nil, ← htime]
      linarith
  | append_singleton before previous ih =>
      rw [List.append_assoc, List.singleton_append] at hcalls
      have hprevious := ih hcalls
      have hkey : key ∈ candidateKeys cfg edges previous.1 :=
        hoverdue.stays previous (by rw [hcalls]; simp)
      rw [← List.append_assoc, windowAfter_concat, sighting]
      by_cases hchain : HasChain cfg edges previous.1
      · rw [get?_correlate_of_hasChain hchain]
        exact hchains before previous call after hcalls hchain
      · rw [get?_correlate_of_candidate hgrace hchain hkey]
        exact hprevious

/-- After a chain the sighting is no older than the call that follows it. -/
theorem le_sighting_of_chain
    (hoverdue : Overdue cfg edges key past during last)
    {before after : List (List Anomaly × ℚ)}
    {chained next : List Anomaly × ℚ}
    (hcalls : during ++ [last] = before ++ chained :: next :: after)
    (hchain : HasChain cfg edges chained.1) :
    next.2 ≤ sighting (windowAfter cfg edges (past ++ during)) key last.2 := by
  obtain ⟨since, hduring, hsince⟩ : ∃ since,
      during = before ++ [chained] ++ since ∧
        next :: after = since ++ [last] := by
    rcases List.eq_nil_or_concat (next :: after) with
      hnil | ⟨since, final, hsince⟩
    · cases hnil
    · have hboth : during ++ [last] =
          (before ++ [chained] ++ since) ++ [final] := by
        rw [hcalls, hsince]
        simp
      obtain ⟨hduring, hfinal⟩ := List.append_inj' hboth rfl
      obtain rfl := (List.cons.inj hfinal).1
      exact ⟨since, hduring, by rw [hsince]; simp⟩
  have hordered := hoverdue.ordered
  rw [hcalls] at hordered
  have hlater : ∀ call ∈ next :: after, next.2 ≤ call.2 := by
    have htail : (next :: after).Pairwise fun call later => call.2 ≤ later.2 :=
      (List.pairwise_cons.mp (List.pairwise_append.mp
        (List.pairwise_append.mp hordered).2.1).2.1).2
    intro call hcall
    rcases List.mem_cons.mp hcall with rfl | hrest
    · exact le_rfl
    · exact (List.pairwise_cons.mp htail).1 call hrest
  have hforgotten : (windowAfter cfg edges
      (past ++ before ++ [chained])).firstSeen.get? key = none := by
    rw [windowAfter_concat]
    exact get?_correlate_of_hasChain hchain
  obtain ⟨call, hmem, htime⟩ := exists_call_of_sighting hforgotten last
  rw [← hsince] at hmem
  rw [hduring, ← List.append_assoc, ← List.append_assoc, ← htime]
  exact hlater call hmem

end Run

/-- A candidate that has stayed for a grace period is shown, unless the call
has no chain itself and one came too late before it. -/
theorem shows_overdue_iff (cfg : CorrelationSettings)
    (edges : List DependencyEdge) (key : IdentityKey)
    (past during : List (List Anomaly × ℚ)) (last : List Anomaly × ℚ)
    (hoverdue : Overdue cfg edges key past during last) :
    Shows cfg edges last.1 (outputOf cfg edges (past ++ during) last) key ↔
      cfg.graceSeconds = 0 ∨ HasChain cfg edges last.1 ∨
        ChainsLongAgo cfg edges (during ++ [last]) last.2 := by
  have hkey : key ∈ candidateKeys cfg edges last.1 :=
    hoverdue.stays last (by simp)
  by_cases hchain : HasChain cfg edges last.1
  · exact iff_of_true (shows_of_hasChain hchain hkey)
      (Or.inr (Or.inl hchain))
  rw [outputOf, shows_iff_of_not_hasChain hchain hkey, or_iff_right hchain]
  by_cases hgrace : cfg.graceSeconds = 0
  · exact iff_of_true (Or.inl hgrace) (Or.inl hgrace)
  rw [or_iff_right hgrace, or_iff_right hgrace]
  constructor
  · intro hpassed before chained next after hcalls hlate
    have hnext := le_sighting_of_chain hoverdue hcalls hlate
    linarith
  · intro hchains
    have hcalls : during ++ [last] = during ++ last :: [] := rfl
    have hle := sighting_le_of_chainsLongAgo hoverdue hgrace hchains hcalls
    linarith

/-- A second application shows both of its symptoms once, ninety seconds before
the candidate of the first one is due. -/
theorem shows_overdue_iff_shop :
    Shows .plain shopEdges [saturatedApache "web"]
        (outputOf .plain shopEdges
          ([] ++ [([saturatedApache "web"], 0),
            ([saturatedApache "web", saturatedApache "web2",
              blockedBackend "db2"], 30),
            ([saturatedApache "web"], 60)])
          ([saturatedApache "web"], 150))
        (saturatedApache "web").identityKey ↔
      CorrelationSettings.plain.graceSeconds = 0 ∨
        HasChain .plain shopEdges [saturatedApache "web"] ∨
        ChainsLongAgo .plain shopEdges
          ([([saturatedApache "web"], 0),
            ([saturatedApache "web", saturatedApache "web2",
              blockedBackend "db2"], 30),
            ([saturatedApache "web"], 60)] ++ [([saturatedApache "web"], 150)])
          150 := by
  apply shows_overdue_iff .plain shopEdges
  refine ⟨?_, ?_, ?_⟩
  · decide +kernel
  · decide +kernel
  · decide +kernel

/-- Ten seconds before the candidate of the first application is due, the
second one shows both of its symptoms. -/
theorem foreign_chain_restarts_grace :
    ¬∀ (cfg : CorrelationSettings) (edges : List DependencyEdge)
      (key : IdentityKey) (past during : List (List Anomaly × ℚ))
      (last : List Anomaly × ℚ), Overdue cfg edges key past during last →
      Shows cfg edges last.1 (outputOf cfg edges (past ++ during) last) key := by
  intro hall
  have hshown := hall .plain shopEdges (saturatedApache "web").identityKey []
    [([saturatedApache "web"], 0),
      ([saturatedApache "web", saturatedApache "web2", blockedBackend "db2"],
        80)]
    ([saturatedApache "web"], 90)
    ⟨by decide +kernel, by decide +kernel, by decide +kernel⟩
  have houtput : outputOf .plain shopEdges
      ([] ++ [([saturatedApache "web"], 0),
        ([saturatedApache "web", saturatedApache "web2",
          blockedBackend "db2"], 80)])
      ([saturatedApache "web"], 90) = [] := by
    decide +kernel
  rw [houtput] at hshown
  rcases hshown with ⟨_, hmem, -⟩ | ⟨_, -, _, -, -, hmem, -⟩
  · cases hmem
  · cases hmem

end DependencyCorrelationWindow

end UyuniAgent
