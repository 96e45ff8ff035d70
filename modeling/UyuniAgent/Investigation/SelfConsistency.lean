import UyuniAgent.Investigation.Citations
import UyuniAgent.Investigation.Collectors
import UyuniAgent.Investigation.DeterministicAnalysis

/-!
# The analyzers and the gate

An analyzer declares the records it has read as the support of its analysis,
and the gate of `ground_analysis` reads the root cause again for citations.
The two agree unless a name in the root cause cites a record on its own.
-/

namespace UyuniAgent.Investigation

open Salt

/-! ## The ledgers of the collectors -/

/-- What `ledger_for_anomaly` and then any sequence of `add` can build. -/
inductive BuiltByCollectors (anomaly : Anomaly) : EvidenceLedger → Prop
  | start (now : ℚ) : BuiltByCollectors anomaly (ledgerForAnomaly anomaly now)
  | add {ledger : EvidenceLedger} (hledger : BuiltByCollectors anomaly ledger)
      (source check : String) (status : EvidenceStatus) (summary : String)
      (details : EvidenceDetails) (target : Option String) (detailLimit : ℕ)
      (now : ℚ) :
      BuiltByCollectors anomaly
        (ledger.add source check status summary details target detailLimit now)

theorem BuiltByCollectors.ledgerWith (py : Interpreter) (anomaly : Anomaly)
    (now : ℚ) (entries : List EvidenceEntry) :
    BuiltByCollectors anomaly (ledgerWith py anomaly now entries) := by
  have hentries : ∀ ledger, BuiltByCollectors anomaly ledger →
      BuiltByCollectors anomaly
        (entries.foldl (EvidenceEntry.add py now) ledger) := by
    induction entries with
    | nil => exact fun ledger hledger => hledger
    | cons entry entries ih =>
        intro ledger hledger
        apply ih
        rcases entry with _ | _
        · exact hledger.add _ _ _ _ _ _ _ _
        · exact hledger.add _ _ _ _ _ _ _ _
  exact hentries _ (.start now)

/-- Every ledger that `collect_required_evidence` returns is built so. -/
theorem collectRequiredEvidence_built {py : Interpreter}
    {client : Option SaltClient} {anomaly : Anomaly} {now : ℚ}
    {ledger : EvidenceLedger}
    (h : collectRequiredEvidence py client anomaly now = .ok ledger) :
    BuiltByCollectors anomaly ledger := by
  rw [collectRequiredEvidence] at h
  split at h
  · obtain rfl := Except.ok.inj h
    exact .start now
  · obtain ⟨entries, -, h⟩ := Raising.bind_eq_ok_iff.mp h
    obtain rfl := Except.ok.inj h
    exact .ledgerWith py anomaly now entries

/-- The records are numbered in order, contradict nothing, and begin with the
anomaly itself. -/
structure WellNumbered (anomaly : Anomaly) (ledger : EvidenceLedger) :
    Prop where
  ids : ∀ (k : ℕ) (record : EvidenceRecord),
    ledger.records[k]? = some record → record.id = recordId k
  contradicts : ∀ record ∈ ledger.records, record.contradicts = []
  head : ∃ detector rest, ledger.records = detector :: rest ∧
    detector.check = anomaly.metricName ∧ detector.status = .ok

section

variable {anomaly : Anomaly} {ledger : EvidenceLedger}

theorem WellNumbered.add (h : WellNumbered anomaly ledger)
    (source check : String) (status : EvidenceStatus) (summary : String)
    (details : EvidenceDetails) (target : Option String) (detailLimit : ℕ)
    (now : ℚ) :
    WellNumbered anomaly
      (ledger.add source check status summary details target detailLimit
        now) where
  ids := by
    intro k record hrecord
    rw [EvidenceLedger.add, List.getElem?_append] at hrecord
    split at hrecord
    · exact h.ids k record hrecord
    · rw [List.getElem?_singleton] at hrecord
      split at hrecord
      next hlarge hindex =>
        obtain rfl := Option.some.inj hrecord
        have hk : k = ledger.records.length := by omega
        rw [hk]
        rfl
      next => cases hrecord
  contradicts := by
    intro record hrecord
    rcases List.mem_append.mp hrecord with hold | hnew
    · exact h.contradicts record hold
    · obtain rfl := List.mem_singleton.mp hnew
      rfl
  head := by
    obtain ⟨detector, rest, hrecords, hdetector⟩ := h.head
    exact ⟨detector, _, by rw [EvidenceLedger.add, hrecords]; rfl, hdetector⟩

theorem wellNumbered_ledgerForAnomaly (anomaly : Anomaly) (now : ℚ) :
    WellNumbered anomaly (ledgerForAnomaly anomaly now) := by
  have hfirst : ∀ source summary details target limit,
      WellNumbered anomaly (EvidenceLedger.add ⟨anomaly.minionId, []⟩ source
        anomaly.metricName .ok summary details target limit now) := by
    intro source summary details target limit
    refine ⟨?_, ?_, _, _, rfl, rfl, rfl⟩
    · intro k record hrecord
      rcases k with _ | k
      · obtain rfl := Option.some.inj hrecord
        rfl
      · cases hrecord
    · intro record hrecord
      obtain rfl := List.mem_singleton.mp hrecord
      rfl
  have hobservations : ∀ (source target : String)
      (observations : List Observation) (ledger : EvidenceLedger),
      WellNumbered anomaly ledger → WellNumbered anomaly
        (observations.foldl (addObservation source target now) ledger) := by
    intro source target observations
    induction observations with
    | nil => exact fun ledger hledger => hledger
    | cons observation observations ih =>
        intro ledger hledger
        exact ih _ (hledger.add _ _ _ _ _ _ _ _)
  rw [ledgerForAnomaly]
  split
  · split
    · exact hobservations _ _ _ _ (hfirst _ _ _ _ _)
    · exact hfirst _ _ _ _ _
  · exact hfirst _ _ _ _ _

theorem BuiltByCollectors.wellNumbered
    (h : BuiltByCollectors anomaly ledger) : WellNumbered anomaly ledger := by
  induction h with
  | start now => exact wellNumbered_ledgerForAnomaly anomaly now
  | add _ source check status summary details target detailLimit now ih =>
      exact ih.add source check status summary details target detailLimit now

theorem WellNumbered.citedEvidenceIds (h : WellNumbered anomaly ledger)
    (unicode : UnicodeData) {record : EvidenceRecord}
    (hrecord : record ∈ ledger.records) :
    citedEvidenceIds unicode record.id = [record.id] := by
  obtain ⟨k, hk⟩ := List.mem_iff_getElem?.mp hrecord
  rw [h.ids k record hk]
  exact citedEvidenceIds_recordId unicode k

theorem WellNumbered.id_inj (h : WellNumbered anomaly ledger)
    {record other : EvidenceRecord} (hrecord : record ∈ ledger.records)
    (hother : other ∈ ledger.records) (hids : record.id = other.id) :
    record = other := by
  obtain ⟨k, hk⟩ := List.mem_iff_getElem?.mp hrecord
  obtain ⟨k', hk'⟩ := List.mem_iff_getElem?.mp hother
  rw [h.ids k record hk, h.ids k' other hk'] at hids
  obtain rfl := recordId_inj hids
  exact Option.some.inj (hk.symm.trans hk')

theorem WellNumbered.get (h : WellNumbered anomaly ledger)
    {record : EvidenceRecord} (hrecord : record ∈ ledger.records) :
    ledger.get record.id = some record := by
  obtain ⟨found, hfound⟩ := EvidenceLedger.get_of_mem_ids
    (List.mem_map_of_mem (f := (·.id)) hrecord)
  have hid : found.id = record.id := by
    simpa using List.find?_some hfound
  rw [hfound, h.id_inj (List.mem_of_find?_eq_some hfound) hrecord hid]

/-! ## What the gate makes of an analysis -/

variable {unicode : UnicodeData} {options : GroundingOptions}
  {analysis : RootCauseAnalysis} {now : ℚ} {support : List EvidenceRecord}

/-- No record is too old, or younger than the gate. -/
def AllFresh (options : GroundingOptions) (ledger : EvidenceLedger)
    (now : ℚ) : Prop :=
  ∀ record ∈ ledger.records, 0 ≤ now - record.observedAt ∧
    now - record.observedAt ≤ options.maxEvidenceAgeSeconds

instance : Decidable (AllFresh options ledger now) :=
  inferInstanceAs (Decidable (∀ record ∈ ledger.records, _))

/-- A confirmed analysis that declares at least two usable records, and cites
some of them in its root cause and in a bullet. -/
structure WellSupported (unicode : UnicodeData) (ledger : EvidenceLedger)
    (support : List EvidenceRecord) (analysis : RootCauseAnalysis) :
    Prop where
  conclusion : analysis.conclusion = .confirmed
  ids : analysis.supportingEvidenceIds = support.map (·.id)
  records : ∀ record ∈ support,
    record ∈ ledger.records ∧ record.status = .ok
  nodup : support.Nodup
  two : 2 ≤ support.length
  cited : ∃ record ∈ support,
    record.id ∈ citedEvidenceIds unicode analysis.rootCause
  bulleted : ∃ item ∈ analysis.keyEvidence, ∃ record ∈ support,
    record.id ∈ citedEvidenceIds unicode item

theorem eraseDups_of_nodup {ids : List String} (h : ids.Nodup) :
    ids.eraseDups = ids := by
  induction ids with
  | nil => rfl
  | cons id ids ih =>
      obtain ⟨hnew, hrest⟩ := List.nodup_cons.mp h
      have hkept : ids.filter (fun other => !other == id) = ids := by
        rw [List.filter_eq_self]
        intro other hother
        have hne : other ≠ id := fun heq => hnew (heq ▸ hother)
        simpa using hne
      rw [List.eraseDups_cons, hkept, ih hrest]

/-- The gate keeps the whole support. -/
theorem WellSupported.supporting_eq
    (hnumbered : WellNumbered anomaly ledger)
    (h : WellSupported unicode ledger support analysis) :
    supporting analysis ledger = support.map (·.id) := by
  have hnodup : (support.map (·.id)).Nodup := by
    apply h.nodup.map_on
    intro record hrecord other hother hids
    exact hnumbered.id_inj (h.records record hrecord).1
      (h.records other hother).1 hids
  rw [supporting, h.ids, eraseDups_of_nodup hnodup, List.filter_eq_self]
  intro id hid
  obtain ⟨record, hrecord, rfl⟩ := List.mem_map.mp hid
  exact decide_eq_true
    (List.mem_map_of_mem (f := (·.id)) (h.records record hrecord).1)

theorem WellSupported.statusesAreUsable
    (hnumbered : WellNumbered anomaly ledger)
    (h : WellSupported unicode ledger support analysis) :
    statusesAreUsable options analysis ledger = true := by
  rw [Investigation.statusesAreUsable, Bool.or_eq_true, List.all_eq_true]
  right
  intro id hid
  rw [h.supporting_eq hnumbered] at hid
  obtain ⟨record, hrecord, rfl⟩ := List.mem_map.mp hid
  obtain ⟨hmem, hok⟩ := h.records record hrecord
  rw [hnumbered.get hmem]
  simpa using hok

theorem staleSupport_eq_nil (hfresh : AllFresh options ledger now) :
    staleSupport options analysis ledger now = [] := by
  rw [staleSupport, List.map_eq_nil_iff, List.filter_eq_nil_iff]
  intro record hrecord
  obtain ⟨id, -, hget⟩ := List.mem_filterMap.mp hrecord
  obtain ⟨hborn, hage⟩ := hfresh record (List.mem_of_find?_eq_some hget)
  simp only [decide_eq_true_eq, not_or, not_lt]
  exact ⟨hborn, hage⟩

theorem WellNumbered.contradictedSupport_eq_nil
    (hnumbered : WellNumbered anomaly ledger) :
    contradictedSupport analysis ledger = [] := by
  rw [contradictedSupport, List.filter_eq_nil_iff]
  intro id hid
  obtain ⟨record, hrecord, hcontradicts⟩ := List.mem_flatMap.mp hid
  rw [hnumbered.contradicts record hrecord] at hcontradicts
  cases hcontradicts

theorem mem_rootRefs {id : String} :
    id ∈ rootRefs unicode analysis ledger ↔
      id ∈ citedEvidenceIds unicode analysis.rootCause ∧ id ∈ ledger.ids := by
  simp [rootRefs]

/-- The root cause cites no record of the ledger outside the support. -/
def CitesSupportOnly (unicode : UnicodeData) (ledger : EvidenceLedger)
    (support : List EvidenceRecord) (text : String) : Prop :=
  ∀ id ∈ citedEvidenceIds unicode text, id ∈ ledger.ids →
    id ∈ support.map (·.id)

/-- Of a well supported analysis the gate tests the citations alone. -/
theorem WellSupported.confirmable_iff
    (hnumbered : WellNumbered anomaly ledger)
    (hfresh : AllFresh options ledger now)
    (hminimum : options.minimumSupportingRecords ≤ 2)
    (h : WellSupported unicode ledger support analysis) :
    confirmable unicode options analysis ledger now = true ↔
      CitesSupportOnly unicode ledger support analysis.rootCause := by
  have hsupporting := h.supporting_eq hnumbered
  rw [Investigation.confirmable_iff]
  constructor
  · intro hconfirms id hcited hid
    rw [← hsupporting]
    exact hconfirms.refs_supporting id (mem_rootRefs.mpr ⟨hcited, hid⟩)
  · intro honly
    have hids : ∀ record ∈ support, record.id ∈ supporting analysis ledger := by
      intro record hrecord
      rw [hsupporting]
      exact List.mem_map_of_mem hrecord
    refine ⟨⟨?_, h.statusesAreUsable hnumbered, staleSupport_eq_nil hfresh,
      hnumbered.contradictedSupport_eq_nil⟩, h.conclusion, ?_, ?_, ?_, ?_⟩
    · intro id hid
      obtain ⟨hcited, hmem⟩ := mem_rootRefs.mp hid
      rw [hsupporting]
      exact honly id hcited hmem
    · obtain ⟨record, hrecord, -⟩ := h.cited
      exact List.ne_nil_of_mem (hids record hrecord)
    · obtain ⟨record, hrecord, hcited⟩ := h.cited
      have hid := hids record hrecord
      exact ⟨record.id,
        mem_rootRefs.mpr ⟨hcited, (mem_supporting.mp hid).2⟩, hid⟩
    · obtain ⟨item, hitem, record, hrecord, hcited⟩ := h.bulleted
      have hgrounded : item ∈ groundedBullets unicode analysis ledger :=
        List.mem_filter.mpr ⟨hitem, List.any_eq_true.mpr
          ⟨record.id, hcited, decide_eq_true (hids record hrecord)⟩⟩
      exact List.ne_nil_of_mem hgrounded
    · have htwo := h.two
      rw [tooFewSupporting, hsupporting, List.length_map,
        decide_eq_false_iff_not]
      omega

/-- The result has the conclusion of the analysis and all that the claim of a
proven cause consists of. -/
structure ConfirmedAsIs (analysis result : RootCauseAnalysis) : Prop where
  conclusion : result.conclusion = .confirmed
  affectedComponent : result.affectedComponent = analysis.affectedComponent
  rootCause : result.rootCause = analysis.rootCause
  supportingEvidenceIds :
    result.supportingEvidenceIds = analysis.supportingEvidenceIds

theorem WellSupported.confirmedAsIs_iff
    (hnumbered : WellNumbered anomaly ledger)
    (hfresh : AllFresh options ledger now)
    (hminimum : options.minimumSupportingRecords ≤ 2)
    (h : WellSupported unicode ledger support analysis) :
    ConfirmedAsIs analysis
        (groundAnalysis unicode options analysis ledger now) ↔
      CitesSupportOnly unicode ledger support analysis.rootCause := by
  rw [← h.confirmable_iff hnumbered hfresh hminimum]
  constructor
  · intro hresult
    exact conclusion_groundAnalysis.mp hresult.conclusion
  · intro hconfirmed
    have hsupporting := h.supporting_eq hnumbered
    rw [groundAnalysis, if_pos hconfirmed]
    exact ⟨h.conclusion, rfl, rfl, hsupporting.trans h.ids.symm⟩

end

/-! ## What the analyzers cite -/

def ProvenCause.support : ProvenCause → List EvidenceRecord
  | .sshHostKeyMismatch cause => [cause.logs, cause.snapshot]
  | .tlsIdentityMismatch cause => [cause.logs, cause.snapshot]
  | .nfsIdentityDrift cause => [cause.logs, cause.snapshot]
  | .servicePortConflict cause =>
      [cause.details, cause.logs, cause.listeners]
  | .diskCrashLoop cause =>
      [cause.usage, cause.largest, cause.details] ++ cause.logs.toList
  | .postgresBlockedTransaction cause => [cause.health, cause.locks]
  | .memoryPressure cause => [cause.detector, cause.snapshot]

/-- The texts from outside that stand in the root cause. -/
def ProvenCause.names : ProvenCause → List String
  | .sshHostKeyMismatch cause =>
      [cause.service, cause.pinnedLabel, cause.presentedLabel]
  | .tlsIdentityMismatch cause => [cause.wrongName]
  | .nfsIdentityDrift _ => []
  | .servicePortConflict cause => [cause.service, cause.process]
  | .diskCrashLoop cause => [cause.service, cause.largePath]
  | .postgresBlockedTransaction _ => []
  | .memoryPressure cause => [cause.process]

section

attribute [local irreducible] closes opens

variable {unicode : UnicodeData} {anomaly : Anomaly} {ledger : EvidenceLedger}
  {analysis : RootCauseAnalysis} {support : List EvidenceRecord}

/-- A well supported analysis whose root cause cites nothing but records of
its support and what the names in it cite. -/
structure CitesThrough (unicode : UnicodeData) (ledger : EvidenceLedger)
    (support : List EvidenceRecord) (names : List String)
    (analysis : RootCauseAnalysis) : Prop where
  supported : WellSupported unicode ledger support analysis
  cites : ∀ id ∈ citedEvidenceIds unicode analysis.rootCause,
    id ∈ support.map (·.id) ∨
      ∃ name ∈ names, id ∈ citedEvidenceIds unicode name
  quotes : ∀ name ∈ names, ∀ id ∈ citedEvidenceIds unicode name,
    id ∈ citedEvidenceIds unicode analysis.rootCause

theorem CitesThrough.citesSupportOnly_iff {names : List String}
    (h : CitesThrough unicode ledger support names analysis) :
    CitesSupportOnly unicode ledger support analysis.rootCause ↔
      ∀ name ∈ names, CitesSupportOnly unicode ledger support name := by
  constructor
  · intro honly name hname id hcited hid
    exact honly id (h.quotes name hname id hcited) hid
  · intro honly id hcited hid
    rcases h.cites id hcited with hsupport | ⟨name, hname, hcites⟩
    · exact hsupport
    · exact honly name hname id hcites hid

/-! ### Distinct records -/

/-- No check begins with both of two such texts. -/
def incomparable (head other : String) : Bool :=
  !head.toList.isPrefixOf other.toList && !other.toList.isPrefixOf head.toList

theorem ne_of_incomparable {record other : EvidenceRecord}
    {head otherHead : String} (hrecord : record ∈ recordsOf ledger head)
    (hother : other ∈ recordsOf ledger otherHead)
    (h : incomparable head otherHead = true) : record ≠ other := by
  rintro rfl
  have hstarts := PyText.startsWith_iff.mp (mem_recordsOf.mp hrecord).2.1
  have hstarts' := PyText.startsWith_iff.mp (mem_recordsOf.mp hother).2.1
  simp only [incomparable, Bool.and_eq_true, Bool.not_eq_true'] at h
  rcases List.prefix_or_prefix_of_prefix hstarts hstarts' with hle | hle
  · rw [List.isPrefixOf_iff_prefix.mpr hle] at h
    cases h.1
  · rw [List.isPrefixOf_iff_prefix.mpr hle] at h
    cases h.2

/-- Distinct usable records of the ledger. -/
structure UsableRecords (ledger : EvidenceLedger)
    (support : List EvidenceRecord) : Prop where
  records : ∀ record ∈ support,
    record ∈ ledger.records ∧ record.status = .ok
  nodup : support.Nodup

theorem head_of_mem {heads : List String}
    (hread : List.Forall₂ (fun record head => record ∈ recordsOf ledger head)
      support heads) {record : EvidenceRecord} (hrecord : record ∈ support) :
    ∃ head ∈ heads, record ∈ recordsOf ledger head := by
  induction hread with
  | nil => cases hrecord
  | cons hfirst _ ih =>
      rcases List.mem_cons.mp hrecord with rfl | hlater
      · exact ⟨_, List.mem_cons_self, hfirst⟩
      · obtain ⟨head, hhead, hmem⟩ := ih hlater
        exact ⟨head, List.mem_cons_of_mem _ hhead, hmem⟩

/-- Records found under incomparable heads are distinct. -/
theorem usableRecords_of_heads {heads : List String}
    (hread : List.Forall₂ (fun record head => record ∈ recordsOf ledger head)
      support heads)
    (hheads : heads.Pairwise fun head other => incomparable head other) :
    UsableRecords ledger support := by
  constructor
  · intro record hrecord
    obtain ⟨head, -, hmem⟩ := head_of_mem hread hrecord
    have hfound := mem_recordsOf.mp hmem
    exact ⟨hfound.1, hfound.2.2⟩
  · induction hread with
    | nil => exact List.nodup_nil
    | cons hfirst hrest ih =>
        obtain ⟨hhead, hlater⟩ := List.pairwise_cons.mp hheads
        refine List.nodup_cons.mpr ⟨?_, ih hlater⟩
        intro hmem
        obtain ⟨other, hother, hfound⟩ := head_of_mem hrest hmem
        exact ne_of_incomparable hfirst hfound (hhead other hother) rfl

/-- A longer head finds fewer records. -/
theorem mem_recordsOf_of_append {record : EvidenceRecord}
    {head rest : String} (h : record ∈ recordsOf ledger (head ++ rest)) :
    record ∈ recordsOf ledger head := by
  obtain ⟨hmem, hstarts, hok⟩ := mem_recordsOf.mp h
  refine mem_recordsOf.mpr ⟨hmem, ?_, hok⟩
  rw [PyText.startsWith_iff, String.toList_append] at hstarts
  exact PyText.startsWith_iff.mpr ((List.prefix_append _ _).trans hstarts)

/-- The journal of the service and the inspection of a dependency. -/
theorem usableRecords_of_dependency {kind : String}
    {logs snapshot : EvidenceRecord}
    (hlogs : serviceLogRecord ledger = some logs)
    (hsnapshot : dependencyRecord ledger kind = some snapshot) :
    UsableRecords ledger [logs, snapshot] := by
  have hinspected : snapshot ∈ recordsOf ledger "dependency_inspection:" := by
    have hmem := mem_of_firstRecord hsnapshot
    rw [String.append_assoc] at hmem
    exact mem_recordsOf_of_append hmem
  exact usableRecords_of_heads
    (.cons (mem_of_firstRecord hlogs) (.cons hinspected .nil)) (by decide)

/-! ### Citations of records -/

/-- A bullet cites the record that it begins with. -/
theorem mem_cited_of_citation {record : EvidenceRecord} {item : String}
    (hself : citedEvidenceIds unicode record.id = [record.id])
    (h : record.citation.toList <+: item.toList) :
    record.id ∈ citedEvidenceIds unicode item := by
  obtain ⟨rest, hrest⟩ := h
  have hitem :
      item.toList = [] ++ '[' :: (record.id.toList ++ ']' :: rest) := by
    rw [← hrest, EvidenceRecord.citation, String.toList_append,
      String.toList_append]
    simp
  rw [citedEvidenceIds_eq, hitem, citedIn_append_cons _ _ (by decide),
    citedIn_append_cons _ _ (by decide), List.map_append, List.map_append,
    ← citedEvidenceIds_eq, hself]
  simp

/-- The citations of a root cause that quotes records of the support. -/
theorem citesThrough_of_quoted (quoted : List EvidenceRecord)
    {names : List String} (hnumbered : WellNumbered anomaly ledger)
    (husable : UsableRecords ledger support) (htwo : 2 ≤ support.length)
    (hconclusion : analysis.conclusion = .confirmed)
    (hids : analysis.supportingEvidenceIds = support.map (·.id))
    (hquoted : quoted ≠ [] ∧ quoted ⊆ support)
    (hcited : ∀ id, id ∈ citedEvidenceIds unicode analysis.rootCause ↔
      (∃ record ∈ quoted, id ∈ citedEvidenceIds unicode record.id) ∨
        ∃ name ∈ names, id ∈ citedEvidenceIds unicode name)
    (hbullet : ∃ item ∈ analysis.keyEvidence, ∃ record ∈ support,
      record.citation.toList <+: item.toList) :
    CitesThrough unicode ledger support names analysis := by
  have hself : ∀ record ∈ support,
      citedEvidenceIds unicode record.id = [record.id] := fun record hrecord =>
    hnumbered.citedEvidenceIds unicode (husable.records record hrecord).1
  refine ⟨⟨hconclusion, hids, husable.records, husable.nodup, htwo, ?_, ?_⟩,
    ?_, ?_⟩
  · obtain ⟨record, hrecord⟩ := List.exists_mem_of_ne_nil quoted hquoted.1
    have hmem := hquoted.2 hrecord
    refine ⟨record, hmem, (hcited record.id).mpr (Or.inl
      ⟨record, hrecord, ?_⟩)⟩
    rw [hself record hmem]
    exact List.mem_singleton.mpr rfl
  · obtain ⟨item, hitem, record, hrecord, hprefix⟩ := hbullet
    exact ⟨item, hitem, record, hrecord,
      mem_cited_of_citation (hself record hrecord) hprefix⟩
  · intro id hid
    rcases (hcited id).mp hid with ⟨record, hrecord, hcites⟩ | hname
    · have hmem := hquoted.2 hrecord
      rw [hself record hmem] at hcites
      obtain rfl := List.mem_singleton.mp hcites
      exact Or.inl (List.mem_map_of_mem hmem)
    · exact Or.inr hname
  · intro name hname id hid
    exact (hcited id).mpr (Or.inr ⟨name, hname, hid⟩)

/-! ### The analyzers -/

variable {dumps : EvidenceDetails → String}

theorem sshHostKeyMismatch_cites (hnumbered : WellNumbered anomaly ledger)
    {cause : SshHostKeyMismatch}
    (h : sshHostKeyMismatch unicode dumps anomaly ledger = some cause)
    (urgency : Urgency) :
    CitesThrough unicode ledger (ProvenCause.sshHostKeyMismatch cause).support
      (ProvenCause.sshHostKeyMismatch cause).names
      (cause.analysis urgency) := by
  obtain ⟨hlogs, hsnapshot⟩ := sshHostKeyMismatch_reads h
  have husable := usableRecords_of_dependency hlogs hsnapshot
  have hcited : citedEvidenceIds unicode cause.rootCause =
      citedEvidenceIds unicode cause.service ++
        citedEvidenceIds unicode cause.pinnedLabel ++
        citedEvidenceIds unicode cause.presentedLabel ++
        citedEvidenceIds unicode cause.snapshot.id ++
        citedEvidenceIds unicode cause.logs.id := by
    unfold SshHostKeyMismatch.rootCause
    rw [citedEvidenceIds_append_closes,
      citedEvidenceIds_between, citedEvidenceIds_between,
      citedEvidenceIds_between, citedEvidenceIds_between]
    all_goals first
      | exact closes_ofList (by decide)
      | exact opens_ofList (by decide)
  refine citesThrough_of_quoted [cause.logs, cause.snapshot] hnumbered
    husable (by simp [ProvenCause.support]) rfl rfl ⟨by simp, ?_⟩ ?_ ?_
  · exact List.Subset.refl _
  · intro id
    change id ∈ citedEvidenceIds unicode cause.rootCause ↔ _
    rw [hcited]
    simp only [ProvenCause.names, List.mem_append, List.mem_cons,
      List.not_mem_nil, or_false, exists_eq_or_imp, exists_eq_left]
    exact iff_of_eq (by ac_rfl)
  · refine ⟨_, List.mem_cons_self, cause.logs, List.mem_cons_self, ?_⟩
    simp only [String.toList_append, List.append_assoc]
    exact List.prefix_append _ _

theorem tlsIdentityMismatch_cites (hnumbered : WellNumbered anomaly ledger)
    {cause : TlsIdentityMismatch}
    (h : tlsIdentityMismatch unicode dumps anomaly ledger = some cause)
    (urgency : Urgency) :
    CitesThrough unicode ledger
      (ProvenCause.tlsIdentityMismatch cause).support
      (ProvenCause.tlsIdentityMismatch cause).names
      (cause.analysis urgency) := by
  obtain ⟨hlogs, hsnapshot⟩ := tlsIdentityMismatch_reads h
  have husable := usableRecords_of_dependency hlogs hsnapshot
  have hcited : citedEvidenceIds unicode cause.rootCause =
      citedEvidenceIds unicode cause.wrongName ++
        citedEvidenceIds unicode cause.snapshot.id ++
        citedEvidenceIds unicode cause.logs.id := by
    unfold TlsIdentityMismatch.rootCause
    rw [citedEvidenceIds_append_closes,
      citedEvidenceIds_between, citedEvidenceIds_between,
      citedEvidenceIds_opens_append]
    all_goals first
      | exact closes_ofList (by decide)
      | exact opens_ofList (by decide)
      | decide +kernel
  refine citesThrough_of_quoted [cause.logs, cause.snapshot] hnumbered
    husable (by simp [ProvenCause.support]) rfl rfl ⟨by simp, ?_⟩ ?_ ?_
  · exact List.Subset.refl _
  · intro id
    change id ∈ citedEvidenceIds unicode cause.rootCause ↔ _
    rw [hcited]
    simp only [ProvenCause.names, List.mem_append, List.mem_cons,
      List.not_mem_nil, or_false, exists_eq_or_imp, exists_eq_left]
    exact iff_of_eq (by ac_rfl)
  · refine ⟨_, List.mem_cons_self, cause.logs, List.mem_cons_self, ?_⟩
    rw [String.toList_append]
    exact List.prefix_append _ _

theorem firstTwoGroups_isPlain {parts : List Regex.Part} {text : String}
    {ids : String × String}
    (hparts : Regex.CapturesOnly unicode Regex.isDecimal parts)
    (h : firstTwoGroups unicode parts text = some ids) :
    'E' ∉ (ownerText ids).toList := by
  rw [firstTwoGroups] at h
  split at h
  next first second rest hgroups =>
    obtain rfl := Option.some.inj h
    have hdecimal := Regex.captured_of_searchGroups hparts hgroups
    have hplain : ∀ group ∈ first :: second :: rest, 'E' ∉ group.toList := by
      intro group hgroup hmem
      have hletter := hdecimal group hgroup 'E' hmem
      revert hletter
      decide
    rw [ownerText, String.toList_append, String.toList_append]
    simp only [List.mem_append, not_or]
    exact ⟨⟨hplain first (by simp), by decide⟩, hplain second (by simp)⟩
  next => cases h

theorem nfsIdentityDrift_cites (hnumbered : WellNumbered anomaly ledger)
    {cause : NfsIdentityDrift}
    (h : nfsIdentityDrift unicode dumps anomaly ledger = some cause)
    (urgency : Urgency) :
    CitesThrough unicode ledger (ProvenCause.nfsIdentityDrift cause).support
      (ProvenCause.nfsIdentityDrift cause).names (cause.analysis urgency) := by
  obtain ⟨hlogs, hsnapshot, hexpected, hserver⟩ := nfsIdentityDrift_reads h
  have husable := usableRecords_of_dependency hlogs hsnapshot
  have hexpectedPlain : 'E' ∉ (ownerText cause.expectedIds).toList := by
    refine firstTwoGroups_isPlain ?_ hexpected
    intro body hbody
    simp only [expectedOwner, List.mem_cons, Regex.Part.group.injEq,
      reduceCtorEq, false_or, List.not_mem_nil, or_false, or_self] at hbody
    subst hbody
    exact Regex.matchesOnly_many
  have hserverPlain : 'E' ∉ (ownerText cause.serverIds).toList := by
    refine firstTwoGroups_isPlain ?_ hserver
    intro body hbody
    simp only [ownerOf, List.mem_cons, Regex.Part.group.injEq,
      reduceCtorEq, false_or, List.not_mem_nil, or_false, or_self] at hbody
    subst hbody
    exact Regex.matchesOnly_many
  have hcited : citedEvidenceIds unicode cause.rootCause =
      citedEvidenceIds unicode cause.snapshot.id ++
        citedEvidenceIds unicode cause.logs.id := by
    unfold NfsIdentityDrift.rootCause
    rw [citedEvidenceIds_append_closes,
      citedEvidenceIds_between, citedEvidenceIds_between,
      citedEvidenceIds_between, citedEvidenceIds_opens_append,
      citedEvidenceIds_eq_nil hexpectedPlain,
      citedEvidenceIds_eq_nil hserverPlain, List.nil_append, List.nil_append]
    all_goals first
      | exact closes_ofList (by decide)
      | exact opens_ofList (by decide)
      | decide +kernel
  refine citesThrough_of_quoted [cause.logs, cause.snapshot] hnumbered
    husable (by simp [ProvenCause.support]) rfl rfl ⟨by simp, ?_⟩ ?_ ?_
  · exact List.Subset.refl _
  · intro id
    change id ∈ citedEvidenceIds unicode cause.rootCause ↔ _
    rw [hcited]
    simp only [ProvenCause.names, List.mem_append, List.mem_cons,
      List.not_mem_nil, or_false, exists_eq_or_imp, exists_eq_left, false_and,
      exists_false]
    exact iff_of_eq (by ac_rfl)
  · refine ⟨_, List.mem_cons_self, cause.logs, List.mem_cons_self, ?_⟩
    simp only [String.toList_append, List.append_assoc]
    exact List.prefix_append _ _

theorem servicePortConflict_cites (hnumbered : WellNumbered anomaly ledger)
    {cause : ServicePortConflict}
    (h : servicePortConflict unicode dumps anomaly ledger = some cause)
    (urgency : Urgency) :
    CitesThrough unicode ledger
      (ProvenCause.servicePortConflict cause).support
      (ProvenCause.servicePortConflict cause).names
      (cause.analysis urgency) := by
  obtain ⟨hdetails, hlogs, hlisteners, -⟩ :=
    servicePortConflict_eq_some_iff.mp h
  have husable : UsableRecords ledger
      [cause.details, cause.logs, cause.listeners] :=
    usableRecords_of_heads
      (.cons (mem_of_firstRecord hdetails)
        (.cons (mem_of_firstRecord hlogs)
          (.cons (mem_of_firstRecord hlisteners) .nil)))
      (by decide)
  have hcited : citedEvidenceIds unicode cause.rootCause =
      citedEvidenceIds unicode cause.service ++
        citedEvidenceIds unicode cause.logs.id ++
        citedEvidenceIds unicode cause.process ++
        citedEvidenceIds unicode cause.listeners.id := by
    unfold ServicePortConflict.rootCause
    rw [citedEvidenceIds_append_closes,
      citedEvidenceIds_between, citedEvidenceIds_between,
      citedEvidenceIds_between, citedEvidenceIds_between,
      citedEvidenceIds_eq_nil (isPlain_toString cause.port), List.append_nil]
    all_goals first
      | exact closes_ofList (by decide)
      | exact opens_ofList (by decide)
  refine citesThrough_of_quoted [cause.logs, cause.listeners] hnumbered
    husable (by simp [ProvenCause.support]) rfl rfl ⟨by simp, ?_⟩ ?_ ?_
  · exact List.subset_cons_self _ _
  · intro id
    change id ∈ citedEvidenceIds unicode cause.rootCause ↔ _
    rw [hcited]
    simp only [ProvenCause.names, List.mem_append, List.mem_cons,
      List.not_mem_nil, or_false, exists_eq_or_imp, exists_eq_left]
    exact iff_of_eq (by ac_rfl)
  · refine ⟨_, List.mem_cons_self, cause.details, List.mem_cons_self, ?_⟩
    simp only [String.toList_append, List.append_assoc]
    exact List.prefix_append _ _

theorem diskCrashLoop_usable {cause : DiskCrashLoop}
    (h : diskCrashLoop unicode dumps ledger = .ok (some cause)) :
    UsableRecords ledger (ProvenCause.diskCrashLoop cause).support := by
  obtain ⟨usage, largest, path, details, restarts, husage, hlargest, -,
    ⟨before, after, hrecords, -, -⟩, rfl⟩ := diskCrashLoop_eq_some_iff.mp h
  have hdetails : details ∈ recordsOf ledger "service_details:" := by
    rw [hrecords]
    exact List.mem_append_right _ List.mem_cons_self
  rw [ProvenCause.support]
  rcases hlogs : firstRecord ledger
    ("service_logs:" ++ serviceOfCheck details.check) with _ | logs
  · refine usableRecords_of_heads (.cons (mem_of_firstRecord husage)
      (.cons (mem_of_firstRecord hlargest) (.cons hdetails .nil))) ?_
    decide
  · have hservice : logs ∈ recordsOf ledger "service_logs:" :=
      mem_recordsOf_of_append (mem_of_firstRecord hlogs)
    refine usableRecords_of_heads (.cons (mem_of_firstRecord husage)
      (.cons (mem_of_firstRecord hlargest)
        (.cons hdetails (.cons hservice .nil)))) ?_
    decide

theorem diskCrashLoop_cites (hnumbered : WellNumbered anomaly ledger)
    {cause : DiskCrashLoop}
    (h : diskCrashLoop unicode dumps ledger = .ok (some cause))
    (urgency : Urgency) :
    CitesThrough unicode ledger (ProvenCause.diskCrashLoop cause).support
      (ProvenCause.diskCrashLoop cause).names (cause.analysis urgency) := by
  have husable := diskCrashLoop_usable h
  have hcited : citedEvidenceIds unicode cause.rootCause =
      citedEvidenceIds unicode cause.service ++
        citedEvidenceIds unicode cause.largePath ++
        citedEvidenceIds unicode cause.details.id ++
        citedEvidenceIds unicode cause.largest.id := by
    unfold DiskCrashLoop.rootCause
    rw [citedEvidenceIds_append_closes,
      citedEvidenceIds_between, citedEvidenceIds_between,
      citedEvidenceIds_between]
    all_goals first
      | exact closes_ofList (by decide)
      | exact opens_ofList (by decide)
  refine citesThrough_of_quoted [cause.largest, cause.details] hnumbered
    husable (by simp [ProvenCause.support]) rfl ?_ ⟨by simp, ?_⟩ ?_ ?_
  · simp [DiskCrashLoop.analysis, ProvenCause.support]
  · simp [ProvenCause.support]
  · intro id
    change id ∈ citedEvidenceIds unicode cause.rootCause ↔ _
    rw [hcited]
    simp only [ProvenCause.names, List.mem_append, List.mem_cons,
      List.not_mem_nil, or_false, exists_eq_or_imp, exists_eq_left]
    exact iff_of_eq (by ac_rfl)
  · refine ⟨_, List.mem_cons_self, cause.usage, List.mem_cons_self, ?_⟩
    simp only [String.toList_append, List.append_assoc]
    exact List.prefix_append _ _

theorem pidText_isPlain (pids : List ℤ) : 'E' ∉ (pidText pids).toList :=
  not_mem_joinedNumbers (by decide) (by decide) (by decide) (pids.take 5)

theorem postgresBlockedTransaction_cites
    (hnumbered : WellNumbered anomaly ledger)
    {cause : PostgresBlockedTransaction}
    (h : postgresBlockedTransaction unicode dumps anomaly ledger = some cause)
    (urgency : Urgency) :
    CitesThrough unicode ledger
      (ProvenCause.postgresBlockedTransaction cause).support
      (ProvenCause.postgresBlockedTransaction cause).names
      (cause.analysis urgency) := by
  obtain ⟨hhealth, hlocks, -⟩ := postgresBlockedTransaction_eq_some_iff.mp h
  have husable : UsableRecords ledger [cause.health, cause.locks] :=
    usableRecords_of_heads
      (.cons (mem_of_firstRecord hhealth)
        (.cons (mem_of_firstRecord hlocks) .nil))
      (by decide)
  have hcited : citedEvidenceIds unicode cause.rootCause =
      citedEvidenceIds unicode cause.health.id ++
        citedEvidenceIds unicode cause.locks.id := by
    unfold PostgresBlockedTransaction.rootCause
    rw [citedEvidenceIds_append_closes,
      citedEvidenceIds_between, citedEvidenceIds_between,
      citedEvidenceIds_between, citedEvidenceIds_opens_append,
      citedEvidenceIds_eq_nil (pidText_isPlain _),
      citedEvidenceIds_eq_nil (pidText_isPlain _), List.append_nil,
      List.append_nil]
    all_goals first
      | exact closes_ofList (by decide)
      | exact opens_ofList (by decide)
  refine citesThrough_of_quoted [cause.health, cause.locks] hnumbered
    husable (by simp [ProvenCause.support]) rfl rfl ⟨by simp, ?_⟩ ?_ ?_
  · exact List.Subset.refl _
  · intro id
    change id ∈ citedEvidenceIds unicode cause.rootCause ↔ _
    rw [hcited]
    simp only [ProvenCause.names, List.mem_append, List.mem_cons,
      List.not_mem_nil, or_false, exists_eq_or_imp, exists_eq_left, false_and,
      exists_false]
  · refine ⟨_, List.mem_cons_self, cause.health, List.mem_cons_self, ?_⟩
    rw [String.toList_append]
    exact List.prefix_append _ _

/-- The first record that a metric finds is the one of the anomaly. -/
theorem WellNumbered.check_of_firstRecord
    (hnumbered : WellNumbered anomaly ledger) {record : EvidenceRecord}
    (h : firstRecord ledger anomaly.metricName = some record) :
    record.check = anomaly.metricName := by
  obtain ⟨detector, rest, hrecords, hcheck, hok⟩ := hnumbered.head
  have hstarts :
      PyText.startsWith detector.check anomaly.metricName = true := by
    rw [PyText.startsWith_iff, hcheck]
  rw [firstRecord, recordsOf, hrecords, List.filter_cons_of_pos
    (by rw [hstarts, hok]; rfl), List.head?_cons] at h
  obtain rfl := Option.some.inj h
  exact hcheck

theorem memoryPressure_cites (hnumbered : WellNumbered anomaly ledger)
    (hmetric : anomaly.metricName = "memory_pressure" ∨
      anomaly.metricName = "memory")
    {cause : ActiveMemoryPressure}
    (h : memoryPressure unicode dumps anomaly ledger = some cause)
    (urgency : Urgency) :
    CitesThrough unicode ledger (ProvenCause.memoryPressure cause).support
      (ProvenCause.memoryPressure cause).names (cause.analysis urgency) := by
  obtain ⟨hsnapshot, hdetector⟩ := memoryPressure_reads h
  have hfoundSnapshot := mem_recordsOf.mp (mem_of_firstRecord hsnapshot)
  have hfoundDetector := mem_recordsOf.mp (mem_of_firstRecord hdetector)
  have hne : cause.detector ≠ cause.snapshot := by
    intro heq
    have hstarts := hfoundSnapshot.2.1
    rw [← heq, hnumbered.check_of_firstRecord hdetector] at hstarts
    rcases hmetric with hmetric | hmetric
    all_goals
      rw [hmetric] at hstarts
      revert hstarts
      decide
  have husable : UsableRecords ledger [cause.detector, cause.snapshot] := by
    constructor
    · intro record hrecord
      simp only [List.mem_cons, List.not_mem_nil, or_false] at hrecord
      rcases hrecord with rfl | rfl
      · exact ⟨hfoundDetector.1, hfoundDetector.2.2⟩
      · exact ⟨hfoundSnapshot.1, hfoundSnapshot.2.2⟩
    · simpa using hne
  have hcited : citedEvidenceIds unicode cause.rootCause =
      citedEvidenceIds unicode cause.detector.id ++
        citedEvidenceIds unicode cause.process ++
        citedEvidenceIds unicode cause.snapshot.id := by
    unfold ActiveMemoryPressure.rootCause
    rw [citedEvidenceIds_append_closes,
      citedEvidenceIds_between, citedEvidenceIds_between,
      citedEvidenceIds_between, citedEvidenceIds_opens_append,
      citedEvidenceIds_eq_nil (isPlain_toString cause.rssKib),
      List.append_nil]
    all_goals first
      | exact closes_ofList (by decide)
      | exact opens_ofList (by decide)
  refine citesThrough_of_quoted [cause.detector, cause.snapshot] hnumbered
    husable (by simp [ProvenCause.support]) rfl rfl ⟨by simp, ?_⟩ ?_ ?_
  · exact List.Subset.refl _
  · intro id
    change id ∈ citedEvidenceIds unicode cause.rootCause ↔ _
    rw [hcited]
    simp only [ProvenCause.names, List.mem_append, List.mem_cons,
      List.not_mem_nil, or_false, exists_eq_or_imp, exists_eq_left]
    exact iff_of_eq (by ac_rfl)
  · refine ⟨_, List.mem_cons_self, cause.detector, List.mem_cons_self, ?_⟩
    simp only [String.toList_append, List.append_assoc]
    exact List.prefix_append _ _

/-! ## The gate and the names -/

/-- The root cause of every proven cause cites its support, and otherwise only
what the names in it cite. -/
theorem provenCause_cites (hnumbered : WellNumbered anomaly ledger)
    {cause : ProvenCause}
    (h : provenCause unicode dumps anomaly ledger = .ok (some cause))
    (urgency : Urgency) :
    CitesThrough unicode ledger cause.support cause.names
      (cause.analysis urgency) := by
  rw [provenCause] at h
  split at h
  next =>
    have hfirst := Except.ok.inj h
    simp only [Option.or_eq_some_iff, Option.map_eq_some_iff] at hfirst
    rcases hfirst with ⟨found, hfound, rfl⟩ | ⟨-, ⟨found, hfound, rfl⟩ |
      ⟨-, ⟨found, hfound, rfl⟩ | ⟨-, found, hfound, rfl⟩⟩⟩
    · exact sshHostKeyMismatch_cites hnumbered hfound urgency
    · exact tlsIdentityMismatch_cites hnumbered hfound urgency
    · exact nfsIdentityDrift_cites hnumbered hfound urgency
    · exact servicePortConflict_cites hnumbered hfound urgency
  next =>
    split at h
    next =>
      rcases hloop : diskCrashLoop unicode dumps ledger with e | result
      · rw [hloop] at h
        cases h
      · rw [hloop] at h
        obtain ⟨found, rfl, rfl⟩ :=
          Option.map_eq_some_iff.mp (Except.ok.inj h)
        exact diskCrashLoop_cites hnumbered hloop urgency
    next =>
      split at h
      next =>
        obtain ⟨found, hfound, rfl⟩ :=
          Option.map_eq_some_iff.mp (Except.ok.inj h)
        exact postgresBlockedTransaction_cites hnumbered hfound urgency
      next =>
        split at h
        next hmetric =>
          obtain ⟨found, hfound, rfl⟩ :=
            Option.map_eq_some_iff.mp (Except.ok.inj h)
          exact memoryPressure_cites hnumbered hmetric hfound urgency
        next => cases h

theorem tryDeterministicAnalysis_eq_some_iff :
    tryDeterministicAnalysis unicode dumps anomaly ledger =
        .ok (some analysis) ↔
      ∃ cause, provenCause unicode dumps anomaly ledger = .ok (some cause) ∧
        cause.analysis (urgencyOf anomaly) = analysis := by
  rw [tryDeterministicAnalysis, tryDeterministicAnalysisWithMetadata]
  rcases provenCause unicode dumps anomaly ledger with e | _ | cause
  · constructor
    · intro h
      cases h
    · rintro ⟨cause, hcause, -⟩
      cases hcause
  · constructor
    · intro h
      cases h
    · rintro ⟨cause, hcause, -⟩
      cases hcause
  · constructor
    · intro h
      exact ⟨cause, rfl, Option.some.inj (Except.ok.inj h)⟩
    · rintro ⟨found, hfound, rfl⟩
      obtain rfl := Option.some.inj (Except.ok.inj hfound)
      rfl

/-- The gate confirms what the analyzers find exactly when no name in a root
cause cites a record that is not part of the support. -/
theorem passes_own_gate_iff (unicode : UnicodeData)
    (dumps : EvidenceDetails → String) (options : GroundingOptions)
    (anomaly : Anomaly) (ledger : EvidenceLedger) (now : ℚ)
    (hbuilt : BuiltByCollectors anomaly ledger)
    (hfresh : AllFresh options ledger now)
    (hminimum : options.minimumSupportingRecords ≤ 2) :
    (∀ analysis, tryDeterministicAnalysis unicode dumps anomaly ledger =
        .ok (some analysis) →
      ConfirmedAsIs analysis
        (groundAnalysis unicode options analysis ledger now)) ↔
    ∀ cause, provenCause unicode dumps anomaly ledger = .ok (some cause) →
      ∀ name ∈ cause.names,
        CitesSupportOnly unicode ledger cause.support name := by
  have hnumbered := hbuilt.wellNumbered
  constructor
  · intro hgate cause hcause
    have hcites := provenCause_cites hnumbered hcause (urgencyOf anomaly)
    have hconfirmed := hgate _
      (tryDeterministicAnalysis_eq_some_iff.mpr ⟨cause, hcause, rfl⟩)
    exact hcites.citesSupportOnly_iff.mp
      ((hcites.supported.confirmedAsIs_iff hnumbered hfresh hminimum).mp
        hconfirmed)
  · intro hnames analysis hanalysis
    obtain ⟨cause, hcause, rfl⟩ :=
      tryDeterministicAnalysis_eq_some_iff.mp hanalysis
    have hcites := provenCause_cites hnumbered hcause (urgencyOf anomaly)
    exact (hcites.supported.confirmedAsIs_iff hnumbered hfresh hminimum).mpr
      (hcites.citesSupportOnly_iff.mpr (hnames cause hcause))

end

/-! ## A unit that is named like a record -/

/-- The failure of a unit, as its detector reports it. -/
def failedUnit (service : String) : Anomaly where
  minionId := "web"
  metricName := "service_down"
  currentValue := 0
  threshold := 1
  severity := .critical
  description := "Service " ++ service ++ " is failed"
  serviceName := some service
  resource := some service
  context := .service "Metrics exporter" "failed" "failed"

/-- The evidence of a port that another process holds. -/
def portConflictEntries (service : String) : List EvidenceEntry :=
  let inspected (check output : String) : EvidenceEntry :=
    .salt ⟨.diskUsage "web", none, check, "", 8000⟩ output
  [inspected ("service_details:" ++ service)
      "ExecStart=/usr/bin/python3 -m http.server 8080",
    inspected ("service_logs:" ++ service)
      "OSError: [Errno 98] Address already in use",
    inspected "listening_tcp_ports"
      "LISTEN 0 5 0.0.0.0:8080 0.0.0.0:* users:((\"nginx\",pid=42,fd=6))"]

def portConflictLedger (service : String) : EvidenceLedger :=
  ledgerWith ⟨1000, fun _ => ""⟩ (failedUnit service) 0
    (portConflictEntries service)

/-- A line of `ss -ltnp`. -/
def busyPort : String :=
  "LISTEN 0 5 0.0.0.0:8080 0.0.0.0:* users:((\"nginx\",pid=42,fd=6))"

/-- The conflict in that evidence. -/
def portConflict (service : String) : ServicePortConflict where
  details := ⟨recordId 1, "salt", "web", "service_details:" ++ service, .ok, "",
    .text "ExecStart=/usr/bin/python3 -m http.server 8080", 0, []⟩
  logs := ⟨recordId 2, "salt", "web", "service_logs:" ++ service, .ok, "",
    .text "OSError: [Errno 98] Address already in use", 0, []⟩
  listeners := ⟨recordId 3, "salt", "web", "listening_tcp_ports", .ok, "",
    .text busyPort, 0, []⟩
  service := service
  process := "nginx"
  port := 8080

/-- A text that shows no failed call is usable. -/
theorem evidenceStatusFor_eq_ok {py : Interpreter} {letters : List Char}
    (hstrip : (letters.dropWhile PyText.isSpace).rdropWhile
      PyText.isSpace = letters)
    (hne : letters ≠ [])
    (hcall : ¬callFailed.toList <+: letters)
    (hremote : ∀ marker ∈ remoteFailureMarkers,
      ∀ rest ∈ (letters.map Char.toLower).tails,
        ¬marker.toList <+: rest) :
    evidenceStatusFor py (.str (String.ofList letters)) = .ok := by
  have hkept : PyText.strip (String.ofList letters) =
      String.ofList letters := by
    rw [PyText.strip, String.toList_ofList, hstrip]
  have hnonempty : String.ofList letters ≠ "" := by
    simpa [String.ofList_eq_empty_iff] using hne
  have hcalled :
      PyText.startsWith (String.ofList letters) callFailed = false := by
    rw [← Bool.not_eq_true, PyText.startsWith_iff, String.toList_ofList]
    exact hcall
  have hanswered : remoteFailureMarkers.any
      (PyText.contains (PyText.lower (String.ofList letters))) = false := by
    rw [List.any_eq_false]
    intro marker hmarker hcontains
    rw [PyText.contains, PyText.lower, String.toList_ofList,
      String.toList_ofList] at hcontains
    obtain ⟨rest, hrest, hprefix⟩ := List.any_eq_true.mp hcontains
    exact hremote marker hmarker rest hrest
      (List.isPrefixOf_iff_prefix.mp hprefix)
  rw [evidenceStatusFor, PyValue.toStr, hkept, if_neg hnonempty, if_neg]
  · simp [hcalled, hanswered]
  · simp
  · simp

theorem truncated_of_le {limit : ℕ} {letters : List Char}
    (h : letters.length ≤ limit) :
    truncated limit (String.ofList letters) = String.ofList letters := by
  rw [truncated, if_neg]
  rw [String.length_ofList]
  omega

/-- The collectors turn the entries into the records of the conflict. -/
theorem records_portConflictLedger (service : String) :
    ∃ detector, detector.id = recordId 0 ∧
      detector.check = "service_down" ∧ detector.observedAt = 0 ∧
      (portConflictLedger service).records =
        [detector, (portConflict service).details,
          (portConflict service).logs, (portConflict service).listeners] := by
  have hmetric :
      ¬(failedUnit service).metricName = "telemetry_unavailable" := by
    simp [failedUnit]
  have hdetector : ∃ detector : EvidenceRecord,
      detector.id = recordId 0 ∧ detector.check = "service_down" ∧
        detector.observedAt = 0 ∧
        ledgerForAnomaly (failedUnit service) 0 = ⟨"web", [detector]⟩ := by
    rw [ledgerForAnomaly, if_neg hmetric]
    exact ⟨_, rfl, rfl, rfl, rfl⟩
  obtain ⟨detector, hid, hcheck, hobserved, hstart⟩ := hdetector
  refine ⟨detector, hid, hcheck, hobserved, ?_⟩
  simp only [portConflictLedger, ledgerWith, portConflictEntries, hstart,
    List.foldl_cons, List.foldl_nil, EvidenceEntry.add, EvidenceLedger.add,
    EvidenceDetails.bounded]
  rw [evidenceStatusFor_eq_ok, evidenceStatusFor_eq_ok,
    evidenceStatusFor_eq_ok, truncated_of_le, truncated_of_le,
    truncated_of_le]
  · simp [portConflict, busyPort, orText, recordId]
  all_goals decide +kernel

theorem provenCause_portConflictLedger (service : String)
    (hservice : service ≠ "") :
    provenCause asciiData (fun _ => "") (failedUnit service)
        (portConflictLedger service) =
      .ok (some (.servicePortConflict (portConflict service))) := by
  obtain ⟨detector, -, hcheck, -, hrecords⟩ :=
    records_portConflictLedger service
  have hnone : ∀ kind,
      dependencyRecord (portConflictLedger service) kind = none := by
    intro kind
    rw [dependencyRecord, firstRecord, recordsOf, hrecords]
    simp [PyText.startsWith, hcheck, portConflict]
  have hdetails : firstRecord (portConflictLedger service)
      "service_details:" = some (portConflict service).details := by
    rw [firstRecord, recordsOf, hrecords]
    simp [PyText.startsWith, hcheck, portConflict]
  have hlogs : firstRecord (portConflictLedger service) "service_logs:" =
      some (portConflict service).logs := by
    rw [firstRecord, recordsOf, hrecords]
    simp [PyText.startsWith, hcheck, portConflict]
  have hlisteners : firstRecord (portConflictLedger service)
      "listening_tcp_ports" = some (portConflict service).listeners := by
    rw [firstRecord, recordsOf, hrecords]
    simp [PyText.startsWith, hcheck, portConflict]
  have hlog : addressInUse.search asciiData
      "OSError: [Errno 98] Address already in use" = true := by
    decide +kernel
  have hport : firstGroup asciiData configuredPort
      "ExecStart=/usr/bin/python3 -m http.server 8080" = some "8080" := by
    decide +kernel
  have hnumber : PyText.toInt? "8080" = some 8080 := by
    decide +kernel
  have hline : listenerLine asciiData 8080 busyPort = some busyPort := by
    decide +kernel
  have hprocess :
      firstGroup asciiData listenerProcess busyPort = some "nginx" := by
    decide +kernel
  have hnamed : serviceOr (failedUnit service) "the configured service" =
      service := by
    simp [serviceOr, failedUnit, orText, hservice]
  have hconflict : servicePortConflict asciiData (fun _ => "")
      (failedUnit service) (portConflictLedger service) =
        some (portConflict service) := by
    simp only [servicePortConflict, hdetails, hlogs, hlisteners,
      Option.bind_eq_bind, Option.bind_some, EvidenceRecord.text,
      portConflict, hlog, hport, hnumber, hline, hprocess, hnamed, if_true]
    rfl
  have hssh : sshHostKeyMismatch asciiData (fun _ => "") (failedUnit service)
      (portConflictLedger service) = none := by
    rw [sshHostKeyMismatch, serviceLogRecord, hlogs, hnone]
    rfl
  have htls : tlsIdentityMismatch asciiData (fun _ => "")
      (failedUnit service) (portConflictLedger service) = none := by
    rw [tlsIdentityMismatch, serviceLogRecord, hlogs, hnone]
    rfl
  have hnfs : nfsIdentityDrift asciiData (fun _ => "") (failedUnit service)
      (portConflictLedger service) = none := by
    rw [nfsIdentityDrift, serviceLogRecord, hlogs, hnone]
    rfl
  rw [provenCause, if_pos (by rfl), hssh, htls, hnfs, hconflict]
  rfl

theorem portConflictLedger_fresh (service : String) (allowFailed : Bool)
    (minimum : ℤ) :
    AllFresh ⟨allowFailed, 300, minimum⟩ (portConflictLedger service) 10 := by
  obtain ⟨detector, -, -, hobserved, hrecords⟩ :=
    records_portConflictLedger service
  intro record hrecord
  have hzero : record.observedAt = 0 := by
    rw [hrecords] at hrecord
    simp only [List.mem_cons, List.not_mem_nil, or_false] at hrecord
    rcases hrecord with rfl | rfl | rfl | rfl
    · exact hobserved
    all_goals rfl
  rw [hzero]
  norm_num

/-- The conflict of a unit with an ordinary name is found and confirmed. -/
theorem port_conflict_is_confirmed :
    ∃ analysis,
      tryDeterministicAnalysis ⟨Char.isAlphanum, fun _ _ => rfl⟩
          (fun _ => "") (failedUnit "exporter.service")
          (portConflictLedger "exporter.service") = .ok (some analysis) ∧
      ConfirmedAsIs analysis
        (groundAnalysis ⟨Char.isAlphanum, fun _ _ => rfl⟩ ⟨false, 300, 2⟩
          analysis (portConflictLedger "exporter.service") 10) := by
  have hcause :=
    provenCause_portConflictLedger "exporter.service" (by decide)
  have hanalysis :=
    tryDeterministicAnalysis_eq_some_iff.mpr ⟨_, hcause, rfl⟩
  refine ⟨_, hanalysis, (passes_own_gate_iff
    ⟨Char.isAlphanum, fun _ _ => rfl⟩ (fun _ => "") ⟨false, 300, 2⟩
    (failedUnit "exporter.service") (portConflictLedger "exporter.service") 10
    (.ledgerWith _ _ _ _) (portConflictLedger_fresh _ _ _) (by decide)).mpr
      ?_ _ hanalysis⟩
  intro found hfound name hname id hid
  obtain rfl := Option.some.inj (Except.ok.inj (hcause.symm.trans hfound))
  have hnone : ["exporter.service", "nginx"].all (fun name =>
      (citedEvidenceIds asciiData name).isEmpty) = true := by
    decide +kernel
  have hempty := List.isEmpty_iff.mp (List.all_eq_true.mp hnone name hname)
  exact absurd (hempty ▸ hid) (List.not_mem_nil)

/-- The conflict of a unit whose name cites the record of the anomaly is
found, and then refused. -/
theorem named_like_a_record_is_refused :
    ¬∀ (unicode : UnicodeData) (dumps : EvidenceDetails → String)
      (options : GroundingOptions) (anomaly : Anomaly)
      (ledger : EvidenceLedger) (now : ℚ),
      BuiltByCollectors anomaly ledger → AllFresh options ledger now →
      options.minimumSupportingRecords ≤ 2 →
      ∀ analysis, tryDeterministicAnalysis unicode dumps anomaly ledger =
          .ok (some analysis) →
        ConfirmedAsIs analysis
          (groundAnalysis unicode options analysis ledger now) := by
  intro hall
  let options : GroundingOptions := ⟨false, 300, 1⟩
  let anomaly := failedUnit "exporter-E1.service"
  let ledger := portConflictLedger "exporter-E1.service"
  have hbuilt : BuiltByCollectors anomaly ledger := .ledgerWith _ _ _ _
  have hfresh : AllFresh options ledger 10 := portConflictLedger_fresh _ _ _
  have hcause :=
    provenCause_portConflictLedger "exporter-E1.service" (by decide)
  have hcites :=
    provenCause_cites hbuilt.wellNumbered hcause (urgencyOf anomaly)
  have hconfirmed := hall asciiData (fun _ => "") options anomaly ledger 10
    hbuilt hfresh (by decide) _
    (tryDeterministicAnalysis_eq_some_iff.mpr ⟨_, hcause, rfl⟩)
  have honly := hcites.citesSupportOnly_iff.mp
    ((hcites.supported.confirmedAsIs_iff hbuilt.wellNumbered hfresh
      (by decide)).mp hconfirmed)
  obtain ⟨detector, hid, -, -, hrecords⟩ :=
    records_portConflictLedger "exporter-E1.service"
  have hlisted : recordId 0 ∈ ledger.ids := by
    rw [EvidenceLedger.ids, hrecords, ← hid]
    exact List.mem_cons_self
  have hcited :
      "E1" ∈ citedEvidenceIds asciiData "exporter-E1.service" := by
    decide +kernel
  have hdetector :=
    honly "exporter-E1.service" List.mem_cons_self "E1" hcited hlisted
  revert hdetector
  decide +kernel

end UyuniAgent.Investigation
