import UyuniAgent.Detector.Anomaly
import UyuniAgent.Support.Decimal
import UyuniAgent.Support.OrderedDict
import Mathlib.Data.List.Basic

/-!
# Dependency correlation

`correlate_dependency_anomalies` collapses an Apache and a PostgreSQL symptom
of one poll cycle into one incident, and `DependencyCorrelationWindow` holds a
candidate back for a grace period while its counterpart may still appear.  What
a cycle returns of an observed anomaly is decided by three cases: it is
absorbed into a chain, it is held, or it passes.
-/

namespace UyuniAgent

/-- An entry of `correlation.postgres_apache`. -/
structure DependencyEdge where
  postgresMinion : Option String
  apacheMinion : Option String
  deriving DecidableEq

/-! ## The candidates -/

/-- `re.IGNORECASE` for one of the letters of `_WEB_APPLICATION_HINT`: the
dotless and dotted i, the long s and the kelvin sign match too. -/
def matchesIgnoringCase (letter char : Char) : Bool :=
  char = letter || char = letter.toUpper ||
    (letter = 'i' && (char = Char.ofNat 0x130 || char = Char.ofNat 0x131)) ||
    (letter = 's' && char = Char.ofNat 0x17f) ||
    (letter = 'k' && char = Char.ofNat 0x212a)

def startsWithIgnoringCase : List Char → List Char → Bool
  | [], _ => true
  | _ :: _, [] => false
  | letter :: word, char :: text =>
      matchesIgnoringCase letter char && startsWithIgnoringCase word text

def webApplicationHints : List String :=
  ["apache", "httpd", "web", "backend", "frontend", "api", "php", "cgi",
    "wsgi", "gunicorn"]

/-- `_WEB_APPLICATION_HINT.search(text)`. -/
def hasWebApplicationHint (text : String) : Bool :=
  text.toList.tails.any fun rest =>
    webApplicationHints.any fun hint =>
      startsWithIgnoringCase hint.toList rest

def isApacheDependencyCandidate (trafficSpikeThreshold : ℚ)
    (anomaly : Anomaly) : Bool :=
  anomaly.metricName = "apache_busy_workers" &&
    anomaly.context.requestsPerSecond.any (· < trafficSpikeThreshold)

def isPostgresDependencyCandidate (anomaly : Anomaly) : Bool :=
  anomaly.metricName = "postgres_blocked_transaction" &&
    anomaly.context.waits.blockedPairs.any fun pair =>
      hasWebApplicationHint pair.blockedApplication

/-! ## Correlation within a cycle -/

def configuredEdge (edges : List DependencyEdge) (apache postgres : Anomaly) :
    Bool :=
  edges.any fun edge =>
    edge.apacheMinion = some apache.minionId &&
      edge.postgresMinion = some postgres.minionId

/-- `_is_apache_dependency_candidate` and `_is_postgres_dependency_candidate`
hold, and the two are on one minion or joined by an edge. -/
def pairable (trafficThreshold : ℚ) (edges : List DependencyEdge)
    (apache postgres : Anomaly) : Bool :=
  isApacheDependencyCandidate trafficThreshold apache &&
    isPostgresDependencyCandidate postgres &&
    (apache.minionId = postgres.minionId ||
      configuredEdge edges apache postgres)

/-- The indexes of the first pair in the order of the two nested loops. -/
def selectedPair (anomalies : List Anomaly) (edges : List DependencyEdge)
    (trafficThreshold : ℚ) : Option (ℕ × ℕ) :=
  anomalies.zipIdx.findSome? fun apache =>
    anomalies.zipIdx.findSome? fun postgres =>
      if pairable trafficThreshold edges apache.1 postgres.1 then
        some (apache.2, postgres.2)
      else none

/-- The anomaly that stands for a correlated pair. -/
def correlatedAnomaly (apache postgres : Anomaly) : Anomaly :=
  let waits := postgres.context.waits
  let busy := Decimal.fixed 1 apache.currentValue
  let crossMinion := apache.minionId ≠ postgres.minionId
  { minionId := apache.minionId
    metricName := "postgres_apache_chain"
    currentValue := postgres.currentValue
    threshold := postgres.threshold
    severity :=
      if apache.severity = .critical ∨ postgres.severity = .critical then
        .critical
      else .warning
    description :=
      if crossMinion then
        "Correlated PostgreSQL lock waits in " ++ waits.database ++ " on " ++
          postgres.minionId ++ " and Apache worker saturation at " ++ busy ++
          "% on " ++ apache.minionId
      else
        "Correlated PostgreSQL lock waits in " ++ waits.database ++
          " and Apache worker saturation at " ++ busy ++ "%"
    serviceName := some "postgresql->apache2"
    resource := some (
      if crossMinion then
        "dependency-chain:" ++ postgres.minionId ++ ":postgresql:" ++
          waits.database ++ "->" ++ apache.minionId ++ ":apache"
      else "dependency-chain:postgresql:" ++ waits.database ++ "->apache")
    context := .chain waits
      { apacheMinionId := apache.minionId
        postgresMinionId := postgres.minionId
        correlatedMinionIds := [postgres.minionId, apache.minionId]
        apacheBusyWorkersPercent := apache.currentValue
        apacheRequestsPerSecond :=
          (apache.context.requestsPerSecond).getD 0
        correlatedMetricNames := [apache.metricName, postgres.metricName] } }

/-- The loop that builds the result: the correlated anomaly stands at the
place of the first of the two, and neither of them is kept. -/
def absorbPair (correlated : Anomaly) (pair : ℕ × ℕ)
    (anomalies : List Anomaly) : List Anomaly :=
  anomalies.zipIdx.flatMap fun entry =>
    (if entry.2 = min pair.1 pair.2 then [correlated] else []) ++
      (if entry.2 = pair.1 ∨ entry.2 = pair.2 then [] else [entry.1])

def correlateDependencyAnomalies (anomalies : List Anomaly)
    (edges : List DependencyEdge) (trafficThreshold : ℚ) : List Anomaly :=
  match selectedPair anomalies edges trafficThreshold with
  | none => anomalies
  | some (apacheIndex, postgresIndex) =>
      match anomalies[apacheIndex]?, anomalies[postgresIndex]? with
      | some apache, some postgres =>
          absorbPair (correlatedAnomaly apache postgres)
            (apacheIndex, postgresIndex) anomalies
      | _, _ => anomalies

/-! ## The window -/

/-- The constructor arguments of `DependencyCorrelationWindow` after
`max(0.0, ...)`. -/
structure CorrelationSettings where
  graceSeconds : ℚ
  apacheTrafficThreshold : ℚ
  graceSeconds_nonneg : 0 ≤ graceSeconds
  apacheTrafficThreshold_nonneg : 0 ≤ apacheTrafficThreshold

/-- The defaults of the constructor. -/
def CorrelationSettings.plain : CorrelationSettings where
  graceSeconds := 90
  apacheTrafficThreshold := 500
  graceSeconds_nonneg := by norm_num
  apacheTrafficThreshold_nonneg := by decide

structure DependencyCorrelationWindow where
  firstSeen : OrderedDict IdentityKey ℚ
  lastHeldCount : ℕ

namespace DependencyCorrelationWindow

def initial : DependencyCorrelationWindow := ⟨OrderedDict.empty, 0⟩

variable (cfg : CorrelationSettings)

/-- `_is_cross_minion_candidate`; an edge with an empty minion is skipped. -/
def isCrossMinionCandidate (edges : List DependencyEdge) (anomaly : Anomaly) :
    Bool :=
  edges.any fun edge =>
    match edge.postgresMinion, edge.apacheMinion with
    | some postgresMinion, some apacheMinion =>
        postgresMinion ≠ "" && apacheMinion ≠ "" &&
          ((anomaly.minionId = postgresMinion &&
              isPostgresDependencyCandidate anomaly) ||
            (anomaly.minionId = apacheMinion &&
              isApacheDependencyCandidate cfg.apacheTrafficThreshold anomaly))
    | _, _ => false

def candidateKeys (edges : List DependencyEdge) (anomalies : List Anomaly) :
    List IdentityKey :=
  (anomalies.filter (isCrossMinionCandidate cfg edges)).map
    Anomaly.identityKey

/-- The last loop of `correlate`: what passes, the first sightings after it,
and how many anomalies were held. -/
def holdCandidates (keys : List IdentityKey) (now : ℚ) :
    OrderedDict IdentityKey ℚ → List Anomaly →
      List Anomaly × OrderedDict IdentityKey ℚ × ℕ
  | firstSeen, [] => ([], firstSeen, 0)
  | firstSeen, anomaly :: rest =>
      let key := anomaly.identityKey
      if key ∉ keys ∨ cfg.graceSeconds = 0 then
        let (passed, firstSeen, held) := holdCandidates keys now firstSeen rest
        (anomaly :: passed, firstSeen, held)
      else
        let seen := (firstSeen.get? key).getD now
        let (passed, firstSeen, held) :=
          holdCandidates keys now (firstSeen.set key seen) rest
        if now - seen < cfg.graceSeconds then (passed, firstSeen, held + 1)
        else (anomaly :: passed, firstSeen, held)

def correlate (window : DependencyCorrelationWindow)
    (anomalies : List Anomaly) (edges : List DependencyEdge) (now : ℚ) :
    List Anomaly × DependencyCorrelationWindow :=
  let correlated :=
    correlateDependencyAnomalies anomalies edges cfg.apacheTrafficThreshold
  if correlated.any (·.metricName = "postgres_apache_chain") then
    (correlated, initial)
  else
    let keys := candidateKeys cfg edges anomalies
    let firstSeen := window.firstSeen.filter fun entry => entry.1 ∈ keys
    let (passed, firstSeen, held) :=
      holdCandidates cfg keys now firstSeen anomalies
    (passed, ⟨firstSeen, held⟩)

/-- The window holds the anomaly back in this cycle. -/
def holds (window : DependencyCorrelationWindow) (anomalies : List Anomaly)
    (edges : List DependencyEdge) (now : ℚ) (anomaly : Anomaly) : Bool :=
  !(correlateDependencyAnomalies anomalies edges
      cfg.apacheTrafficThreshold).any
      (·.metricName = "postgres_apache_chain") &&
    anomaly.identityKey ∈ candidateKeys cfg edges anomalies &&
    cfg.graceSeconds ≠ 0 &&
    now - (window.firstSeen.get? anomaly.identityKey).getD now <
      cfg.graceSeconds

end DependencyCorrelationWindow

/-! ## What correlation keeps -/

section Correlate

variable {anomalies : List Anomaly} {edges : List DependencyEdge}
  {threshold : ℚ}

theorem selectedPair_spec {pair : ℕ × ℕ}
    (h : selectedPair anomalies edges threshold = some pair) :
    ∃ apache postgres, anomalies[pair.1]? = some apache ∧
      anomalies[pair.2]? = some postgres ∧
      pairable threshold edges apache postgres = true := by
  obtain ⟨⟨apache, i⟩, hapache, hinner⟩ := List.exists_of_findSome?_eq_some h
  obtain ⟨⟨postgres, j⟩, hpostgres, hpair⟩ :=
    List.exists_of_findSome?_eq_some hinner
  rw [List.mem_zipIdx_iff_getElem?] at hapache hpostgres
  split at hpair
  next hok =>
    obtain rfl := Option.some.inj hpair
    exact ⟨apache, postgres, hapache, hpostgres, hok⟩
  next => cases hpair

theorem correlate_of_no_pair
    (h : selectedPair anomalies edges threshold = none) :
    correlateDependencyAnomalies anomalies edges threshold = anomalies := by
  simp [correlateDependencyAnomalies, h]

theorem correlate_of_pair {pair : ℕ × ℕ}
    (h : selectedPair anomalies edges threshold = some pair) :
    ∃ apache postgres, anomalies[pair.1]? = some apache ∧
      anomalies[pair.2]? = some postgres ∧
      pairable threshold edges apache postgres = true ∧
      correlateDependencyAnomalies anomalies edges threshold =
        absorbPair (correlatedAnomaly apache postgres) pair anomalies := by
  obtain ⟨apache, postgres, hapache, hpostgres, hok⟩ := selectedPair_spec h
  refine ⟨apache, postgres, hapache, hpostgres, hok, ?_⟩
  simp [correlateDependencyAnomalies, h, hapache, hpostgres]

/-- An anomaly outside the pair is kept. -/
theorem mem_absorbPair {correlated anomaly : Anomaly} {pair : ℕ × ℕ} {i : ℕ}
    (hi : anomalies[i]? = some anomaly) (hout : i ≠ pair.1 ∧ i ≠ pair.2) :
    anomaly ∈ absorbPair correlated pair anomalies := by
  rw [absorbPair, List.mem_flatMap]
  refine ⟨(anomaly, i), List.mem_zipIdx_iff_getElem?.mpr hi,
    List.mem_append_right _ ?_⟩
  rw [if_neg (not_or.mpr hout)]
  exact List.mem_cons_self

/-- The correlated anomaly takes the place of the pair. -/
theorem correlated_mem_absorbPair {correlated : Anomaly} {pair : ℕ × ℕ}
    (hfirst : ∃ a, anomalies[pair.1]? = some a)
    (hsecond : ∃ a, anomalies[pair.2]? = some a) :
    correlated ∈ absorbPair correlated pair anomalies := by
  have hmin : ∃ a, anomalies[min pair.1 pair.2]? = some a := by
    rcases min_choice pair.1 pair.2 with heq | heq
    · rwa [heq]
    · rwa [heq]
  obtain ⟨a, ha⟩ := hmin
  rw [absorbPair, List.mem_flatMap]
  refine ⟨(a, min pair.1 pair.2), List.mem_zipIdx_iff_getElem?.mpr ha,
    List.mem_append_left _ ?_⟩
  rw [if_pos rfl]
  exact List.mem_cons_self

/-- A pair leaves a chain behind. -/
theorem any_chain_of_pair {pair : ℕ × ℕ}
    (h : selectedPair anomalies edges threshold = some pair) :
    (correlateDependencyAnomalies anomalies edges threshold).any
      (·.metricName = "postgres_apache_chain") = true := by
  obtain ⟨apache, postgres, hapache, hpostgres, -, heq⟩ := correlate_of_pair h
  rw [heq, List.any_eq_true]
  exact ⟨correlatedAnomaly apache postgres,
    correlated_mem_absorbPair ⟨apache, hapache⟩ ⟨postgres, hpostgres⟩,
    by simp [correlatedAnomaly]⟩

/-- What correlation returns was observed, or stands for an observed pair. -/
theorem mem_correlate_cases {anomaly : Anomaly}
    (h : anomaly ∈ correlateDependencyAnomalies anomalies edges threshold) :
    anomaly ∈ anomalies ∨ ∃ apache ∈ anomalies, ∃ postgres ∈ anomalies,
      pairable threshold edges apache postgres = true ∧
      anomaly = correlatedAnomaly apache postgres := by
  rcases hpair : selectedPair anomalies edges threshold with _ | pair
  · rw [correlate_of_no_pair hpair] at h
    exact Or.inl h
  · obtain ⟨apache, postgres, hapache, hpostgres, hok, heq⟩ :=
      correlate_of_pair hpair
    rw [heq, absorbPair, List.mem_flatMap] at h
    obtain ⟨⟨a, i⟩, hmem, hentry⟩ := h
    rw [List.mem_zipIdx_iff_getElem?] at hmem
    rcases List.mem_append.mp hentry with hchain | hkept
    · split at hchain
      · obtain rfl := List.mem_singleton.mp hchain
        exact Or.inr ⟨apache, List.mem_of_getElem? hapache, postgres,
          List.mem_of_getElem? hpostgres, hok, rfl⟩
      · simp at hchain
    · split at hkept
      · simp at hkept
      · obtain rfl := List.mem_singleton.mp hkept
        exact Or.inl (List.mem_of_getElem? hmem)

end Correlate

/-! ## What a cycle passes on -/

namespace DependencyCorrelationWindow

variable {cfg : CorrelationSettings} {window : DependencyCorrelationWindow}
  {anomalies : List Anomaly} {edges : List DependencyEdge} {now : ℚ}

/-- The loop holds the anomaly back, given the first sightings. -/
def isHeldBack (cfg : CorrelationSettings) (keys : List IdentityKey) (now : ℚ)
    (firstSeen : OrderedDict IdentityKey ℚ) (anomaly : Anomaly) : Bool :=
  anomaly.identityKey ∈ keys && cfg.graceSeconds ≠ 0 &&
    now - (firstSeen.get? anomaly.identityKey).getD now < cfg.graceSeconds

/-- `setdefault` does not change what a later lookup defaults to. -/
theorem isHeldBack_setdefault {keys : List IdentityKey}
    {firstSeen : OrderedDict IdentityKey ℚ} (key : IdentityKey) :
    isHeldBack cfg keys now
        (firstSeen.set key ((firstSeen.get? key).getD now)) =
      isHeldBack cfg keys now firstSeen := by
  funext anomaly
  have hkept : ((firstSeen.set key ((firstSeen.get? key).getD now)).get?
      anomaly.identityKey).getD now =
        (firstSeen.get? anomaly.identityKey).getD now := by
    rw [OrderedDict.get?_set]
    split
    next heq => rw [heq, Option.getD_some]
    next => rfl
  rw [isHeldBack, isHeldBack, hkept]

/-- The loop passes on what it does not hold back, and counts what it does. -/
theorem holdCandidates_eq {keys : List IdentityKey}
    {firstSeen : OrderedDict IdentityKey ℚ} :
    (holdCandidates cfg keys now firstSeen anomalies).1 =
        anomalies.filter (fun a => !isHeldBack cfg keys now firstSeen a) ∧
      (holdCandidates cfg keys now firstSeen anomalies).2.2 =
        anomalies.countP (isHeldBack cfg keys now firstSeen) := by
  induction anomalies generalizing firstSeen with
  | nil => exact ⟨rfl, rfl⟩
  | cons first rest ih =>
      simp only [holdCandidates]
      split
      next hfree =>
        have hpasses : isHeldBack cfg keys now firstSeen first = false := by
          rcases hfree with hkey | hgrace
          · simp [isHeldBack, hkey]
          · simp [isHeldBack, hgrace]
        obtain ⟨hpassed, hheld⟩ := @ih firstSeen
        simp only [hpassed, hheld]
        rw [List.filter_cons_of_pos (by simp [hpasses]),
          List.countP_cons_of_neg (by simp [hpasses])]
        exact ⟨rfl, rfl⟩
      next hcandidate =>
        rw [not_or, not_not] at hcandidate
        obtain ⟨hpassed, hheld⟩ := @ih (firstSeen.set
          first.identityKey ((firstSeen.get? first.identityKey).getD now))
        rw [isHeldBack_setdefault] at hheld
        simp only [isHeldBack_setdefault] at hpassed
        split
        next hlt =>
          have hholds : isHeldBack cfg keys now firstSeen first = true := by
            simp [isHeldBack, hcandidate.1, hcandidate.2, hlt]
          rw [hpassed, hheld, List.filter_cons_of_neg (by simp [hholds]),
            List.countP_cons_of_pos hholds]
          exact ⟨rfl, rfl⟩
        next hover =>
          have hpasses : isHeldBack cfg keys now firstSeen first = false := by
            simp only [isHeldBack, decide_eq_false hover, Bool.and_false]
          rw [hpassed, hheld, List.filter_cons_of_pos (by simp [hpasses]),
            List.countP_cons_of_neg (by simp [hpasses])]
          exact ⟨rfl, rfl⟩

/-- Without a chain, what the window holds back is what the loop holds back. -/
theorem holds_eq_isHeldBack
    (hchain : (correlateDependencyAnomalies anomalies edges
      cfg.apacheTrafficThreshold).any
        (·.metricName = "postgres_apache_chain") = false) (anomaly : Anomaly) :
    holds cfg window anomalies edges now anomaly =
      isHeldBack cfg (candidateKeys cfg edges anomalies) now
        (window.firstSeen.filter fun entry =>
          entry.1 ∈ candidateKeys cfg edges anomalies) anomaly := by
  rw [holds, hchain, isHeldBack, Bool.not_false, Bool.true_and]
  by_cases hkey : anomaly.identityKey ∈ candidateKeys cfg edges anomalies
  · have hseen : (window.firstSeen.filter fun entry =>
        entry.1 ∈ candidateKeys cfg edges anomalies).get?
          anomaly.identityKey = window.firstSeen.get? anomaly.identityKey := by
      rw [OrderedDict.get?_filter]
      rcases window.firstSeen.get? anomaly.identityKey with _ | seen
      · rfl
      · simp [hkey]
    rw [hseen]
  · simp [hkey]

/-- An observed anomaly that is neither absorbed nor held passes. -/
theorem mem_correlate {anomaly : Anomaly} {i : ℕ}
    (hi : anomalies[i]? = some anomaly)
    (hout : ∀ pair, selectedPair anomalies edges cfg.apacheTrafficThreshold =
      some pair → i ≠ pair.1 ∧ i ≠ pair.2)
    (hfree : holds cfg window anomalies edges now anomaly = false) :
    anomaly ∈ (correlate cfg window anomalies edges now).1 := by
  have hmem : anomaly ∈ anomalies := List.mem_of_getElem? hi
  rcases hpair : selectedPair anomalies edges cfg.apacheTrafficThreshold with
    _ | pair
  · have hsame := correlate_of_no_pair hpair
    simp only [correlate]
    split
    · rwa [hsame]
    next hchain =>
      rw [holds_eq_isHeldBack (by simpa using hchain)] at hfree
      rw [holdCandidates_eq.1, List.mem_filter]
      exact ⟨hmem, by simp [hfree]⟩
  · obtain ⟨apache, postgres, hapache, hpostgres, -, heq⟩ :=
      correlate_of_pair hpair
    simp only [correlate, any_chain_of_pair hpair, if_true]
    rw [heq]
    exact mem_absorbPair hi (hout pair hpair)

/-- The window adds nothing to what correlation returns. -/
theorem mem_of_mem_correlate {anomaly : Anomaly}
    (h : anomaly ∈ (correlate cfg window anomalies edges now).1) :
    anomaly ∈ correlateDependencyAnomalies anomalies edges
      cfg.apacheTrafficThreshold := by
  simp only [correlate] at h
  split at h
  · exact h
  next hchain =>
    have hnone : selectedPair anomalies edges cfg.apacheTrafficThreshold =
        none := by
      by_contra hsome
      obtain ⟨pair, hpair⟩ := Option.ne_none_iff_exists'.mp hsome
      exact hchain (any_chain_of_pair hpair)
    rw [correlate_of_no_pair hnone]
    rw [holdCandidates_eq.1] at h
    exact List.mem_of_mem_filter h

end DependencyCorrelationWindow

end UyuniAgent
