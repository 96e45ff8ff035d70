import UyuniAgent.Detector.Findings

/-!
# Groups of lock waits

`postgres_blocking_anomalies` compares whole seconds with thresholds that it
converts to integers first.  A fractional threshold counts as the integer below
it, so a wait between the two is reported although it has not reached the
threshold.
-/

namespace UyuniAgent

open Raising

/-! ## What the groups should be -/

/-- The waits in a database that have reached the threshold. -/
def waitingIn (warning : Limit) (pairs : List LockPair) (database : String) :
    List LockPair :=
  pairs.filter fun pair => pair.database = database ∧
    warning.AtMost (.finite pair.blockedSeconds)

/-- The list has the given values, each once and in ascending order. -/
def SortedSetOf (sorted values : List ℤ) : Prop :=
  sorted.Pairwise (· < ·) ∧ ∀ n, n ∈ sorted ↔ n ∈ values

/-- The anomaly describes the waits in a database. -/
structure IsGroup (warning critical : Limit) (pairs : List LockPair)
    (database : String) (anomaly : Anomaly) : Prop where
  ofDatabase : anomaly.context.waits.database = database
  waits : anomaly.context.waits.blockedPairs =
    waitingIn warning pairs database
  reached : ∃ pair ∈ waitingIn warning pairs database,
    (pair.blockedSeconds : ℚ) = anomaly.currentValue
  longest : ∀ pair ∈ waitingIn warning pairs database,
    (pair.blockedSeconds : ℚ) ≤ anomaly.currentValue
  severity : anomaly.severity = .critical ↔
    critical.AtMost (.finite anomaly.currentValue)
  blockedPids : SortedSetOf anomaly.context.waits.blockedPids
    ((waitingIn warning pairs database).map (·.blockedPid))
  blockerPids : SortedSetOf anomaly.context.waits.blockerPids
    ((waitingIn warning pairs database).map (·.blockerPid))

/-- The anomalies describe the waits that have reached the threshold, one for
each database. -/
structure GroupsExactly (warning critical : Limit) (pairs : List LockPair)
    (anomalies : List Anomaly) : Prop where
  groups : ∀ anomaly ∈ anomalies, ∃ database,
    IsGroup warning critical pairs database anomaly
  covered : ∀ pair ∈ pairs, warning.AtMost (.finite pair.blockedSeconds) →
    ∃ anomaly ∈ anomalies, pair ∈ anomaly.context.waits.blockedPairs
  databases : (anomalies.map (·.context.waits.database)).Nodup
  identities : (anomalies.map Anomaly.identityKey).Nodup

/-- The wait is the longest one of its database, and has reached the
threshold. -/
def LongestOfGroup (warning : ℚ) (pairs : List LockPair) (pair : LockPair) :
    Prop :=
  warning ≤ pair.blockedSeconds ∧ ∀ other ∈ pairs,
    other.database = pair.database → other.blockedSeconds ≤ pair.blockedSeconds

/-- Both thresholds are finite, no wait lies between the warning threshold and
the integer below it, and no longest wait between the critical threshold and
the integer below it or off the doubles. -/
def ThresholdsSeparate (warning critical : Limit) (pairs : List LockPair) :
    Prop :=
  ∃ low high, warning = .finite low ∧ critical = .finite high ∧
    (∀ pair ∈ pairs, ⌊low⌋ ≤ pair.blockedSeconds →
      low ≤ pair.blockedSeconds) ∧
    ∀ pair ∈ pairs, LongestOfGroup low pairs pair →
      (⌊high⌋ ≤ pair.blockedSeconds → high ≤ pair.blockedSeconds) ∧
        PyValue.floatOfInt pair.blockedSeconds = .ok pair.blockedSeconds

/-! ## What the code groups -/

section Code

variable {pairs group : List LockPair} {minionId database : String}
  {low high : ℚ} {warning critical : ℤ} {anomaly : Anomaly}
  {anomalies : List Anomaly}

theorem sortedSetOf_sortedSet (values : List ℤ) :
    SortedSetOf (sortedSet values) values := by
  constructor
  · have hsorted : (sortedSet values).Pairwise (· ≤ ·) :=
      List.pairwise_insertionSort _ _
    have hnodup : (sortedSet values).Nodup :=
      (List.perm_insertionSort _ _).nodup_iff.mpr (List.nodup_dedup values)
    exact hsorted.imp₂ (fun _ _ hle hne => lt_of_le_of_ne hle hne) hnodup
  · intro n
    rw [sortedSet, List.mem_insertionSort, List.mem_dedup]

/-- The longest of some waits that are not negative. -/
theorem longestWait_spec (hgroup : group ≠ [])
    (hnonneg : ∀ pair ∈ group, 0 ≤ pair.blockedSeconds) :
    (∃ pair ∈ group, pair.blockedSeconds = longestWait group) ∧
      ∀ pair ∈ group, pair.blockedSeconds ≤ longestWait group := by
  induction group with
  | nil => exact absurd rfl hgroup
  | cons first rest ih =>
      have hmax : longestWait (first :: rest) =
          max first.blockedSeconds (longestWait rest) := rfl
      rw [List.forall_mem_cons] at hnonneg
      by_cases hrest : rest = []
      · subst hrest
        have hfirst : longestWait [first] = first.blockedSeconds :=
          max_eq_left hnonneg.1
        rw [hfirst]
        simp
      · obtain ⟨⟨pair, hpair, hlongest⟩, hle⟩ := ih hrest hnonneg.2
        rw [hmax]
        refine ⟨?_, ?_⟩
        · rcases max_choice first.blockedSeconds (longestWait rest) with
            heq | heq
          · exact ⟨first, List.mem_cons_self, heq.symm⟩
          · exact ⟨pair, List.mem_cons_of_mem first hpair,
              hlongest.trans heq.symm⟩
        · intro other hother
          rcases List.mem_cons.mp hother with rfl | hmem
          · exact le_max_left _ _
          · exact (hle other hmem).trans (le_max_right _ _)

/-- The anomaly of a group. -/
theorem blockedTransactionAnomaly_spec
    (h : blockedTransactionAnomaly minionId warning critical database group =
      .ok anomaly) :
    PyValue.floatOfInt (longestWait group) = .ok anomaly.currentValue ∧
      (anomaly.severity = .critical ↔ critical ≤ longestWait group) ∧
      anomaly.context.waits = ⟨database, sortedSet (group.map (·.blockedPid)),
        sortedSet (group.map (·.blockerPid)), group⟩ ∧
      anomaly.identityKey = ⟨minionId, "postgres_blocked_transaction",
        "postgresql", "postgresql:" ++ database⟩ := by
  obtain ⟨currentValue, hvalue, h⟩ := bind_eq_ok_iff.mp h
  obtain rfl := Except.ok.inj h
  refine ⟨hvalue, ?_, rfl, rfl⟩
  simp

/-- The groups that the code makes for thresholds of the schema. -/
theorem postgresBlockingAnomalies_eq (hlow : 0 ≤ low) (hle : low ≤ high) :
    postgresBlockingAnomalies pairs ⟨some (.finite low), some (.finite high)⟩
        minionId =
      (lockedDatabases (pairs.filter (⌊low⌋ ≤ ·.blockedSeconds))).mapM
        fun database =>
          blockedTransactionAnomaly minionId ⌊low⌋ ⌊high⌋ database
            ((pairs.filter (⌊low⌋ ≤ ·.blockedSeconds)).filter
              (·.database = database)) := by
  have hlow' : PyValue.truncate low = ⌊low⌋ := if_neg (not_lt.mpr hlow)
  have hhigh' : PyValue.truncate high = ⌊high⌋ :=
    if_neg (not_lt.mpr (hlow.trans hle))
  have hwarning : max 0 ⌊low⌋ = ⌊low⌋ := max_eq_right (Int.floor_nonneg.mpr hlow)
  have hcritical : max ⌊low⌋ ⌊high⌋ = ⌊high⌋ :=
    max_eq_right (Int.floor_le_floor hle)
  simp only [postgresBlockingAnomalies, Option.getD_some, Limit.toInt, hlow',
    hhigh', bind, Except.bind, hwarning, hcritical]

theorem floor_le_iff_of_separate
    (hseparate : ∀ pair ∈ pairs, ⌊low⌋ ≤ pair.blockedSeconds →
      low ≤ pair.blockedSeconds) {pair : LockPair} (hmem : pair ∈ pairs) :
    ⌊low⌋ ≤ pair.blockedSeconds ↔ low ≤ pair.blockedSeconds := by
  constructor
  · exact hseparate pair hmem
  · intro hle
    exact_mod_cast (Int.floor_le low).trans hle

/-- When no wait lies below the threshold and above its integer part, the groups
are the right ones. -/
theorem filter_floor_eq
    (hseparate : ∀ pair ∈ pairs, ⌊low⌋ ≤ pair.blockedSeconds →
      low ≤ pair.blockedSeconds) (database : String) :
    (pairs.filter (⌊low⌋ ≤ ·.blockedSeconds)).filter (·.database = database) =
      waitingIn (.finite low) pairs database := by
  rw [List.filter_filter, waitingIn]
  apply List.filter_congr
  intro pair hmem
  have hiff := floor_le_iff_of_separate hseparate hmem
  by_cases hdatabase : pair.database = database
  · simp [hdatabase, hiff, Limit.AtMost]
  · simp [hdatabase]

theorem mem_waitingIn {pair : LockPair} :
    pair ∈ waitingIn (.finite low) pairs database ↔ pair ∈ pairs ∧
      pair.database = database ∧ low ≤ pair.blockedSeconds := by
  rw [waitingIn, List.mem_filter, decide_eq_true_eq]
  rfl

theorem mem_lockedDatabases :
    database ∈ lockedDatabases pairs ↔
      ∃ pair ∈ pairs, pair.database = database := by
  rw [lockedDatabases, List.mem_insertionSort, List.mem_dedup, List.mem_map]

theorem lockedDatabases_nodup : (lockedDatabases pairs).Nodup :=
  (List.perm_insertionSort _ _).nodup_iff.mpr (List.nodup_dedup _)

/-- The longest wait of a database in the sense of the code. -/
theorem longestWait_waitingIn (hlow : 0 ≤ low) {pair : LockPair}
    (hmem : pair ∈ pairs) (hlongest : LongestOfGroup low pairs pair) :
    longestWait (waitingIn (.finite low) pairs pair.database) =
      pair.blockedSeconds := by
  have hgroup : pair ∈ waitingIn (.finite low) pairs pair.database :=
    mem_waitingIn.mpr ⟨hmem, rfl, hlongest.1⟩
  have hnonneg : ∀ other ∈ waitingIn (.finite low) pairs pair.database,
      0 ≤ other.blockedSeconds := by
    intro other hother
    exact_mod_cast hlow.trans (mem_waitingIn.mp hother).2.2
  obtain ⟨⟨other, hother, heq⟩, hle⟩ :=
    longestWait_spec (List.ne_nil_of_mem hgroup) hnonneg
  obtain ⟨hpairs, hdatabase, -⟩ := mem_waitingIn.mp hother
  apply le_antisymm
  · rw [← heq]
    exact hlongest.2 other hpairs hdatabase
  · exact hle pair hgroup

/-- A database with a wait that counts has a longest one. -/
theorem exists_longestOfGroup (hlow : 0 ≤ low)
    (hgroup : waitingIn (.finite low) pairs database ≠ []) :
    ∃ pair ∈ pairs, pair.database = database ∧
      LongestOfGroup low pairs pair := by
  have hnonneg : ∀ other ∈ waitingIn (.finite low) pairs database,
      0 ≤ other.blockedSeconds := by
    intro other hother
    exact_mod_cast hlow.trans (mem_waitingIn.mp hother).2.2
  obtain ⟨⟨pair, hpair, heq⟩, hle⟩ := longestWait_spec hgroup hnonneg
  obtain ⟨hmem, hdatabase, hreached⟩ := mem_waitingIn.mp hpair
  refine ⟨pair, hmem, hdatabase, hreached, ?_⟩
  intro other hother hsame
  by_cases hcounts : low ≤ other.blockedSeconds
  · rw [heq]
    exact hle other (mem_waitingIn.mpr
      ⟨hother, hsame.trans hdatabase, hcounts⟩)
  · have hshorter : (other.blockedSeconds : ℚ) ≤ pair.blockedSeconds :=
      (not_le.mp hcounts).le.trans hreached
    exact_mod_cast hshorter

end Code

/-! ## When the groups are right -/

section Groups

variable {pairs : List LockPair} {minionId : String} {low high : ℚ}
  {anomalies : List Anomaly}

/-- The anomaly of a right group describes it. -/
theorem isGroup_of_separate (hlow : 0 ≤ low) {database : String}
    {anomaly : Anomaly}
    (hseparate : ThresholdsSeparate (.finite low) (.finite high) pairs)
    (hgroup : waitingIn (.finite low) pairs database ≠ [])
    (h : blockedTransactionAnomaly minionId ⌊low⌋ ⌊high⌋ database
      (waitingIn (.finite low) pairs database) = .ok anomaly) :
    IsGroup (.finite low) (.finite high) pairs database anomaly := by
  obtain ⟨low', high', hlow', hhigh', -, hexact⟩ := hseparate
  obtain rfl := Limit.finite.inj hlow'
  obtain rfl := Limit.finite.inj hhigh'
  obtain ⟨hvalue, hcritical, hwaits, -⟩ := blockedTransactionAnomaly_spec h
  obtain ⟨pair, hmem, rfl, hlongest⟩ := exists_longestOfGroup hlow hgroup
  obtain ⟨hhigh, hdouble⟩ := hexact pair hmem hlongest
  have hwait := longestWait_waitingIn hlow hmem hlongest
  rw [hwait] at hvalue hcritical
  have hcurrent : anomaly.currentValue = pair.blockedSeconds :=
    Except.ok.inj (hvalue.symm.trans hdouble)
  refine ⟨by rw [hwaits], by rw [hwaits], ?_, ?_, ?_, ?_, ?_⟩
  · exact ⟨pair, mem_waitingIn.mpr ⟨hmem, rfl, hlongest.1⟩, hcurrent.symm⟩
  · intro other hother
    obtain ⟨hpairs, hdatabase, -⟩ := mem_waitingIn.mp hother
    rw [hcurrent]
    exact_mod_cast hlongest.2 other hpairs hdatabase
  · rw [hcritical, hcurrent]
    constructor
    · exact hhigh
    · intro hle
      have hreal : (⌊high⌋ : ℚ) ≤ pair.blockedSeconds :=
        (Int.floor_le high).trans hle
      exact_mod_cast hreal
  · rw [hwaits]
    exact sortedSetOf_sortedSet _
  · rw [hwaits]
    exact sortedSetOf_sortedSet _

/-- Separated thresholds group the waits as they should. -/
theorem groupsExactly_of_separate (hlow : 0 ≤ low) (hle : low ≤ high)
    (hseparate : ThresholdsSeparate (.finite low) (.finite high) pairs) :
    ∃ anomalies, postgresBlockingAnomalies pairs
        ⟨some (.finite low), some (.finite high)⟩ minionId = .ok anomalies ∧
      GroupsExactly (.finite low) (.finite high) pairs anomalies := by
  obtain ⟨low', high', hlow', hhigh', hbetween, hexact⟩ := id hseparate
  obtain rfl := Limit.finite.inj hlow'
  obtain rfl := Limit.finite.inj hhigh'
  have hfilter := filter_floor_eq hbetween
  have hnonempty : ∀ database ∈ lockedDatabases
      (pairs.filter (⌊low⌋ ≤ ·.blockedSeconds)),
      waitingIn (.finite low) pairs database ≠ [] := by
    intro database hdatabase
    obtain ⟨pair, hpair, hsame⟩ := mem_lockedDatabases.mp hdatabase
    rw [← hfilter database]
    have hgroup : pair ∈ (pairs.filter (⌊low⌋ ≤ ·.blockedSeconds)).filter
        (·.database = database) := by
      rw [List.mem_filter]
      exact ⟨hpair, by simpa using hsame⟩
    exact List.ne_nil_of_mem hgroup
  have hcode := @postgresBlockingAnomalies_eq pairs minionId low high hlow hle
  obtain ⟨anomalies, hanomalies⟩ : Returns (postgresBlockingAnomalies pairs
      ⟨some (.finite low), some (.finite high)⟩ minionId) := by
    rw [hcode, returns_mapM_iff]
    intro database hdatabase
    obtain ⟨pair, hmem, rfl, hlongest⟩ :=
      exists_longestOfGroup hlow (hnonempty database hdatabase)
    obtain ⟨-, hdouble⟩ := hexact pair hmem hlongest
    rw [hfilter, blockedTransactionAnomaly,
      longestWait_waitingIn hlow hmem hlongest, returns_bind_iff]
    exact ⟨_, hdouble, returns_ok _⟩
  have hloop := hcode.symm.trans hanomalies
  refine ⟨anomalies, hanomalies, ?_, ?_, ?_, ?_⟩
  · intro anomaly hanomaly
    obtain ⟨database, hdatabase, hround⟩ :=
      mem_of_mapM_eq_ok hloop hanomaly
    rw [hfilter] at hround
    exact ⟨database, isGroup_of_separate hlow hseparate
      (hnonempty database hdatabase) hround⟩
  · intro pair hmem hreached
    have hcounts : pair ∈ pairs.filter (⌊low⌋ ≤ ·.blockedSeconds) := by
      rw [List.mem_filter, decide_eq_true_eq,
        floor_le_iff_of_separate hbetween hmem]
      exact ⟨hmem, hreached⟩
    obtain ⟨anomaly, hanomaly, hround⟩ := exists_of_mem_mapM hloop
      (mem_lockedDatabases.mpr ⟨pair, hcounts, rfl⟩)
    refine ⟨anomaly, hanomaly, ?_⟩
    rw [(blockedTransactionAnomaly_spec hround).2.2.1, List.mem_filter]
    exact ⟨hcounts, by simp⟩
  · have hsame := map_eq_of_mapM (g := (·.context.waits.database)) (k := id)
      (fun database anomaly hround => by
        rw [(blockedTransactionAnomaly_spec hround).2.2.1]
        rfl) hloop
    rw [hsame, List.map_id]
    exact lockedDatabases_nodup
  · have hsame := map_eq_of_mapM (g := Anomaly.identityKey)
      (k := fun database => ⟨minionId, "postgres_blocked_transaction",
        "postgresql", "postgresql:" ++ database⟩)
      (fun database anomaly hround =>
        (blockedTransactionAnomaly_spec hround).2.2.2) hloop
    rw [hsame]
    apply lockedDatabases_nodup.map
    intro database database' hkeys
    have hresource := congrArg IdentityKey.resource hkeys
    exact (String.append_right_inj "postgresql:").mp hresource

/-- Where the groups are right, the thresholds separate the waits. -/
theorem separate_of_groupsExactly (hlow : 0 ≤ low) (hle : low ≤ high)
    (hresult : postgresBlockingAnomalies pairs
      ⟨some (.finite low), some (.finite high)⟩ minionId = .ok anomalies)
    (hgroups : GroupsExactly (.finite low) (.finite high) pairs anomalies) :
    ThresholdsSeparate (.finite low) (.finite high) pairs := by
  have hloop := (postgresBlockingAnomalies_eq hlow hle).symm.trans hresult
  -- the anomaly that the code makes of the group of a wait
  have hround {pair : LockPair} (hmem : pair ∈ pairs)
      (hcounts : ⌊low⌋ ≤ pair.blockedSeconds) :
      ∃ anomaly ∈ anomalies, blockedTransactionAnomaly minionId ⌊low⌋ ⌊high⌋
        pair.database ((pairs.filter (⌊low⌋ ≤ ·.blockedSeconds)).filter
          (·.database = pair.database)) = .ok anomaly := by
    apply exists_of_mem_mapM hloop
    refine mem_lockedDatabases.mpr ⟨pair, ?_, rfl⟩
    rw [List.mem_filter, decide_eq_true_eq]
    exact ⟨hmem, hcounts⟩
  have hbetween : ∀ pair ∈ pairs, ⌊low⌋ ≤ pair.blockedSeconds →
      low ≤ pair.blockedSeconds := by
    intro pair hmem hcounts
    obtain ⟨anomaly, hanomaly, hok⟩ := hround hmem hcounts
    obtain ⟨database, hgroup⟩ := hgroups.groups anomaly hanomaly
    have hlisted : pair ∈ anomaly.context.waits.blockedPairs := by
      rw [(blockedTransactionAnomaly_spec hok).2.2.1, List.mem_filter,
        List.mem_filter]
      exact ⟨⟨hmem, by simpa using hcounts⟩, by simp⟩
    rw [hgroup.waits] at hlisted
    exact (mem_waitingIn.mp hlisted).2.2
  refine ⟨low, high, rfl, rfl, hbetween, ?_⟩
  intro pair hmem hlongest
  have hcounts : ⌊low⌋ ≤ pair.blockedSeconds :=
    (floor_le_iff_of_separate hbetween hmem).mpr hlongest.1
  obtain ⟨anomaly, hanomaly, hok⟩ := hround hmem hcounts
  rw [filter_floor_eq hbetween] at hok
  obtain ⟨hvalue, hcritical, hwaits, -⟩ := blockedTransactionAnomaly_spec hok
  rw [longestWait_waitingIn hlow hmem hlongest] at hvalue hcritical
  obtain ⟨database, hgroup⟩ := hgroups.groups anomaly hanomaly
  have hdatabase : pair.database = database := by
    rw [← hgroup.ofDatabase, hwaits]
  subst hdatabase
  -- the value of the anomaly is the longest wait
  obtain ⟨other, hother, hreached⟩ := hgroup.reached
  obtain ⟨hpairs, hsame, -⟩ := mem_waitingIn.mp hother
  have hcurrent : anomaly.currentValue = pair.blockedSeconds := by
    apply le_antisymm
    · rw [← hreached]
      exact_mod_cast hlongest.2 other hpairs hsame
    · exact hgroup.longest pair
        (mem_waitingIn.mpr ⟨hmem, rfl, hlongest.1⟩)
  constructor
  · intro hhigh
    have hsevere := hgroup.severity.mp (hcritical.mpr hhigh)
    rw [hcurrent] at hsevere
    exact hsevere
  · rw [hvalue, hcurrent]

end Groups

/-- The waits are grouped as configured exactly when no wait falls between a
threshold and its integer part, and the longest ones are doubles. -/
theorem groupsExactly_iff (pairs : List LockPair) (warning critical : Limit)
    (minionId : String)
    (hband : ThresholdBand.Accepted ⟨some warning, some critical⟩) :
    (∃ anomalies, postgresBlockingAnomalies pairs
        ⟨some warning, some critical⟩ minionId = .ok anomalies ∧
      GroupsExactly warning critical pairs anomalies) ↔
      ThresholdsSeparate warning critical pairs := by
  obtain ⟨warning', critical', heq, hnonneg, -, hle⟩ := hband
  obtain ⟨hw, hc⟩ := ThresholdBand.mk.inj heq
  obtain rfl := Option.some.inj hw
  obtain rfl := Option.some.inj hc
  constructor
  · rintro ⟨anomalies, hresult, hgroups⟩
    obtain ⟨low, high, hlow, hhigh, -⟩ :=
      postgresBlockingAnomalies_returns_iff.mp ⟨anomalies, hresult⟩
    obtain rfl : warning = .finite low := hlow
    obtain rfl : critical = .finite high := hhigh
    exact separate_of_groupsExactly hnonneg hle hresult hgroups
  · intro hseparate
    obtain ⟨low, high, rfl, rfl, -⟩ := id hseparate
    exact groupsExactly_of_separate hnonneg hle hseparate

/-- A session of the shop that has waited for some seconds. -/
def waitingSession (blockedSeconds : ℤ) : LockPair where
  blockedPid := 12
  database := "shop"
  blockedUser := "shop"
  blockedApplication := "backend"
  blockedClient := "web"
  blockedState := "active"
  waitEvent := "Lock:relation"
  blockedSeconds := blockedSeconds
  blockedQueryId := "unavailable"
  blockedCommand := "UPDATE"
  blockerPid := 11
  blockerUser := "admin"
  blockerApplication := "psql"
  blockerClient := "local"
  blockerState := "idle in transaction"
  blockerWaitEventType := none
  blockerTransactionSeconds := 90
  blockerQueryId := "unavailable"
  blockerCommand := "LOCK"

theorem groupsExactly_iff_shop :
    (∃ anomalies, postgresBlockingAnomalies [waitingSession 40]
        ⟨some (.finite (11 / 2)), some (.finite 30)⟩ "db" = .ok anomalies ∧
      GroupsExactly (.finite (11 / 2)) (.finite 30) [waitingSession 40]
        anomalies) ↔
      ThresholdsSeparate (.finite (11 / 2)) (.finite 30) [waitingSession 40] :=
  groupsExactly_iff [waitingSession 40] (.finite (11 / 2)) (.finite 30) "db"
    (ThresholdBand.accepted_of (by norm_num) (by norm_num))

/-- With a warning threshold of five and a half seconds, a wait of five seconds
is reported. -/
theorem fractional_threshold_reports_early :
    ¬∀ (pairs : List LockPair) (warning critical : Limit) (minionId : String),
      ThresholdBand.Accepted ⟨some warning, some critical⟩ →
      ∃ anomalies, postgresBlockingAnomalies pairs
          ⟨some warning, some critical⟩ minionId = .ok anomalies ∧
        GroupsExactly warning critical pairs anomalies := by
  intro hall
  obtain ⟨anomalies, hresult, hgroups⟩ := hall [waitingSession 5]
    (.finite (11 / 2)) (.finite 30) "db"
    (ThresholdBand.accepted_of (by norm_num) (by norm_num))
  obtain ⟨low, -, hlow, -, hbetween, -⟩ :=
    separate_of_groupsExactly (by norm_num) (by norm_num) hresult hgroups
  obtain rfl := Limit.finite.inj hlow
  have hfloor : ⌊(11 / 2 : ℚ)⌋ ≤ (waitingSession 5).blockedSeconds := by
    decide +kernel
  have hreached := hbetween (waitingSession 5) (by simp) hfloor
  norm_num [waitingSession] at hreached

end UyuniAgent
