import UyuniAgent.Incident.Reconcile

/-!
# Generations of an incident

A row's generation is the stretch from its opening to its resolution, named by
`starts_at`.  Here is what each operation of the store does to a generation:
only `mark_resolved` closes one, only `reconcile` opens one, and only
`mark_emitted` touches what it says about the delivered alert.
-/

namespace UyuniAgent.Incident

variable {F : Type} [DecidableEq F] {cfg : StoreSettings F} {table : Table F}

/-- Every row is stored under the fingerprint of its identity. -/
def KeyedBy (scheme : FingerprintScheme F) (table : Table F) : Prop :=
  ∀ f row, table.get? f = some row → scheme.digest row.identityKey = f

/-- `row'` is the same generation as `row`, with the same delivered alert. -/
structure Row.Continues (row row' : Row F) : Prop where
  identityKey : row'.identityKey = row.identityKey
  status : row'.status = row.status
  startsAt : row'.startsAt = row.startsAt
  payloadJson : row'.payloadJson = row.payloadJson
  lastEmitted : row'.lastEmitted = row.lastEmitted
  lastEmittedSeverity : row'.lastEmittedSeverity = row.lastEmittedSeverity

omit [DecidableEq F] in
theorem Row.Continues.refl (row : Row F) : row.Continues row := by
  constructor <;> rfl

omit [DecidableEq F] in
theorem Row.Continues.minionId {row row' : Row F} (h : row.Continues row') :
    row'.minionId = row.minionId :=
  congrArg IdentityKey.minionId h.identityKey

/-- The open generation of `f` started at `startsAt` and belongs to
`minionId`. -/
def OpenAs (table : Table F) (minionId : String) (f : F)
    (startsAt : Rfc3339) : Prop :=
  ∃ row, table.get? f = some row ∧ row.status = .active ∧
    row.minionId = minionId ∧ row.startsAt = startsAt

theorem OpenAs.minion_unique {m m' : String} {f : F} {g g' : Rfc3339}
    (h : OpenAs table m f g) (h' : OpenAs table m' f g') : m = m' := by
  obtain ⟨row, hrow, -, rfl, -⟩ := h
  obtain ⟨row', hrow', -, rfl, -⟩ := h'
  obtain rfl : row = row' := Option.some.inj (hrow.symm.trans hrow')
  rfl

/-! ## Reconciliation -/

/-- What `reconcile` does to the row of a fingerprint: it continues the
generation, or opens one where none was open. -/
inductive RowReconciled (minionId : String) (observedAt : ℚ)
    (anomaly? : Option Anomaly) :
    Option (Row F) → Option (Row F) → Prop
  | absent : RowReconciled minionId observedAt anomaly? none none
  | continues (row row' : Row F) (h : row.Continues row') :
      RowReconciled minionId observedAt anomaly? (some row) (some row')
  | opened (row? : Option (Row F)) (anomaly : Anomaly)
      (hobserved : anomaly? = some anomaly)
      (hclosed : ∀ row, row? = some row → row.status = .resolved) :
      RowReconciled minionId observedAt anomaly? row?
        (some (Row.opened minionId anomaly observedAt))

section Reconcile

variable {minionId : String} {anomalies : List Anomaly} {observedAt : ℚ}

/-- A row observed in a reconciliation belongs to its minion. -/
theorem row_minionId_of_observed
    (hkeyed : KeyedBy cfg.scheme table)
    (hcarries : ∀ a ∈ anomalies, a.minionId = minionId)
    {f : F} {row : Row F} {anomaly : Anomaly}
    (hrow : table.get? f = some row)
    (hobserved : (preferMoreSevere cfg anomalies).get? f = some anomaly) :
    anomaly.minionId = minionId ∧ row.identityKey = anomaly.identityKey := by
  obtain ⟨hmem, hkey⟩ := mem_of_preferMoreSevere_get? hobserved
  refine ⟨hcarries anomaly hmem, ?_⟩
  have hrowKey := hkeyed f row hrow
  exact cfg.scheme.digest_injective (hrowKey.trans hkey.symm)

/-- An open generation of the reconciled minion continues. -/
theorem reconcile_of_activeRow
    (cfg : StoreSettings F) (anomalies : List Anomaly) (observedAt : ℚ)
    {f : F} {row : Row F}
    (hactive : activeRow table minionId f = some row) :
    ∃ row',
      (reconcile cfg table minionId anomalies observedAt).2.get? f =
        some row' ∧ row.Continues row' := by
  obtain ⟨hrow, hmine⟩ := activeRow_eq_some_iff.mp hactive
  rw [reconcile_get?, hrow]
  rcases (preferMoreSevere cfg anomalies).get? f with _ | anomaly
  · simp only [reconciledRow, hmine, if_true]
    exact ⟨_, rfl, by constructor <;> rfl⟩
  · simp only [reconciledRow, hmine, if_true]
    exact ⟨_, rfl, by constructor <;> rfl⟩

theorem activeFor_eq_false {f : F} {row : Row F}
    (hactive : activeRow table minionId f = none)
    (hrow : table.get? f = some row) : row.activeFor minionId = false := by
  by_contra hmine
  rw [Bool.not_eq_false] at hmine
  rw [activeRow_eq_some_iff.mpr ⟨hrow, hmine⟩] at hactive
  cases hactive

/-- An observed incident without an open generation gets a fresh one. -/
theorem reconcile_of_first_observation
    (hkeyed : KeyedBy cfg.scheme table)
    (hcarries : ∀ a ∈ anomalies, a.minionId = minionId)
    (observedAt : ℚ) {f : F} {anomaly : Anomaly}
    (hactive : activeRow table minionId f = none)
    (hobserved : (preferMoreSevere cfg anomalies).get? f = some anomaly) :
    (∀ row, table.get? f = some row → row.status = .resolved) ∧
      (reconcile cfg table minionId anomalies observedAt).2.get? f =
        some (Row.opened minionId anomaly observedAt) := by
  rw [reconcile_get?, hobserved]
  rcases hrow : table.get? f with _ | row
  · simp [reconciledRow]
  · obtain ⟨hminion, hkey⟩ :=
      row_minionId_of_observed hkeyed hcarries hrow hobserved
    have hrowMinion : row.minionId = minionId :=
      (congrArg IdentityKey.minionId hkey).trans hminion
    have hquiet : row.activeFor minionId = false :=
      activeFor_eq_false hactive hrow
    have hstatus : row.status = .resolved := by
      rcases hs : row.status with _ | _
      · simp [Row.activeFor, hrowMinion, hs] at hquiet
      · rfl
    constructor
    · intro row' hrow'
      obtain rfl := Option.some.inj hrow'
      exact hstatus
    · simp only [reconciledRow, hquiet, Bool.false_eq_true, if_false]
      rw [Row.reopened_eq_opened hkey, hminion]

theorem reconcile_of_untouched {f : F}
    (hactive : activeRow table minionId f = none)
    (hunobserved : (preferMoreSevere cfg anomalies).get? f = none) :
    (reconcile cfg table minionId anomalies observedAt).2.get? f =
      table.get? f := by
  rw [reconcile_get?, hunobserved]
  rcases hrow : table.get? f with _ | row
  · rfl
  · have hquiet : ¬row.activeFor minionId = true := by
      intro hmine
      rw [activeRow_eq_some_iff.mpr ⟨hrow, hmine⟩] at hactive
      cases hactive
    simp only [reconciledRow, hquiet, Bool.false_eq_true, if_false]

theorem reconcile_row
    (hkeyed : KeyedBy cfg.scheme table)
    (hcarries : ∀ a ∈ anomalies, a.minionId = minionId)
    (observedAt : ℚ) (f : F) :
    RowReconciled minionId observedAt ((preferMoreSevere cfg anomalies).get? f)
      (table.get? f)
      ((reconcile cfg table minionId anomalies observedAt).2.get? f) := by
  rcases hactive : activeRow table minionId f with _ | row
  · rcases hobserved : (preferMoreSevere cfg anomalies).get? f with _ | anomaly
    · rw [reconcile_of_untouched hactive hobserved]
      rcases table.get? f with _ | row
      · exact .absent
      · exact .continues row row (Row.Continues.refl row)
    · obtain ⟨hclosed, hopened⟩ :=
        reconcile_of_first_observation hkeyed hcarries observedAt hactive
          hobserved
      rw [hopened]
      exact .opened _ anomaly rfl hclosed
  · obtain ⟨row', hafter, hcontinues⟩ :=
      reconcile_of_activeRow cfg anomalies observedAt hactive
    rw [hafter, (activeRow_eq_some_iff.mp hactive).1]
    exact .continues row row' hcontinues

theorem opened_identityKey
    (hcarries : ∀ a ∈ anomalies, a.minionId = minionId)
    {f : F} {anomaly : Anomaly}
    (hobserved : (preferMoreSevere cfg anomalies).get? f = some anomaly) :
    cfg.scheme.digest
      (Row.opened (F := F) minionId anomaly observedAt).identityKey = f := by
  obtain ⟨hmem, rfl⟩ := mem_of_preferMoreSevere_get? hobserved
  rw [← hcarries anomaly hmem]
  rfl

theorem KeyedBy.reconcile
    (hkeyed : KeyedBy cfg.scheme table)
    (hcarries : ∀ a ∈ anomalies, a.minionId = minionId) :
    KeyedBy cfg.scheme
      (Incident.reconcile cfg table minionId anomalies observedAt).2 := by
  intro f row hrow
  have hcase := reconcile_row hkeyed hcarries observedAt f
  rw [hrow] at hcase
  generalize hbefore : table.get? f = row₀? at hcase
  cases hcase with
  | continues row₀ _ hcontinues =>
      rw [hcontinues.identityKey]
      exact hkeyed f row₀ hbefore
  | opened _ anomaly hobserved _ => exact opened_identityKey hcarries hobserved

/-- A reconciliation closes no generation. -/
theorem OpenAs.reconcile
    (hkeyed : KeyedBy cfg.scheme table)
    (hcarries : ∀ a ∈ anomalies, a.minionId = minionId)
    {m : String} {f : F} {g : Rfc3339} (h : OpenAs table m f g) :
    OpenAs (Incident.reconcile cfg table minionId anomalies observedAt).2 m f
      g := by
  obtain ⟨row, hrow, hactive, hm, hg⟩ := h
  have hcase := reconcile_row hkeyed hcarries observedAt f
  rw [hrow] at hcase
  generalize hafter :
    (Incident.reconcile cfg table minionId anomalies observedAt).2.get? f =
      row'? at hcase
  cases hcase with
  | continues _ row' hcontinues =>
      exact ⟨row', hafter, hcontinues.status.trans hactive,
        hcontinues.minionId.trans hm, hcontinues.startsAt.trans hg⟩
  | opened _ anomaly _ hclosed =>
      rw [hclosed row rfl] at hactive
      cases hactive

/-- What `reconcile` reports as firing is an open generation, with the payload
its row stores. -/
theorem open_of_mem_firing
    (hkeyed : KeyedBy cfg.scheme table)
    (hcarries : ∀ a ∈ anomalies, a.minionId = minionId)
    {incident : FiringIncident F}
    (hmem : incident ∈
      (reconcile cfg table minionId anomalies observedAt).1.firing) :
    ∃ row,
      (reconcile cfg table minionId anomalies observedAt).2.get?
        incident.fingerprint = some row ∧
      row.status = .active ∧ row.minionId = minionId ∧
      row.startsAt = incident.startsAt ∧
      row.payloadJson = incident.previousPayload := by
  obtain ⟨f, anomaly, hobserved, hfiring⟩ := mem_reconcile_firing_iff.mp hmem
  obtain rfl : incident.fingerprint = f := firingFor_fingerprint hfiring
  rcases hactive : activeRow table minionId incident.fingerprint with _ | row
  · obtain ⟨-, hopened⟩ := reconcile_of_first_observation hkeyed hcarries
      observedAt hactive hobserved
    rw [hactive] at hfiring
    refine ⟨_, hopened, rfl, rfl, ?_, ?_⟩
    · rw [← Option.some.inj hfiring]
      rfl
    · rw [← Option.some.inj hfiring]
      rfl
  · obtain ⟨row', hafter, hcontinues⟩ :=
      reconcile_of_activeRow cfg anomalies observedAt hactive
    obtain ⟨-, hmine⟩ := activeRow_eq_some_iff.mp hactive
    simp only [Row.activeFor, Bool.and_eq_true, decide_eq_true_eq] at hmine
    rw [hactive] at hfiring
    simp only [firingFor] at hfiring
    split at hfiring
    · refine ⟨row', hafter, hcontinues.status.trans hmine.2,
        hcontinues.minionId.trans hmine.1, ?_, ?_⟩
      · rw [hcontinues.startsAt, ← Option.some.inj hfiring]
      · rw [hcontinues.payloadJson, ← Option.some.inj hfiring]
    · cases hfiring

/-- What `reconcile` reports as resolved is an open generation too. -/
theorem open_of_mem_resolved
    {record : IncidentRecord F}
    (hmem : record ∈
      (reconcile cfg table minionId anomalies observedAt).1.resolved) :
    ∃ row,
      (reconcile cfg table minionId anomalies observedAt).2.get?
        record.fingerprint = some row ∧
      row.status = .active ∧ row.minionId = minionId ∧
      row.startsAt = record.startsAt ∧ row.payloadJson = record.payload := by
  obtain ⟨f, row, hactive, -, -, rfl⟩ := mem_reconcile_resolved_iff.mp hmem
  obtain ⟨row', hafter, hcontinues⟩ :=
    reconcile_of_activeRow cfg anomalies observedAt hactive
  obtain ⟨-, hmine⟩ := activeRow_eq_some_iff.mp hactive
  simp only [Row.activeFor, Bool.and_eq_true, decide_eq_true_eq] at hmine
  exact ⟨row', hafter, hcontinues.status.trans hmine.2,
    hcontinues.minionId.trans hmine.1, hcontinues.startsAt,
    hcontinues.payloadJson⟩

/-- No incident is reported both as resolved and as firing. -/
theorem reported_nodup
    (cfg : StoreSettings F) (table : Table F) (minionId : String)
    (anomalies : List Anomaly) (observedAt : ℚ) :
    let changes := (reconcile cfg table minionId anomalies observedAt).1
    (changes.resolved.map (·.fingerprint) ++
      changes.firing.map (·.fingerprint)).Nodup := by
  refine List.Nodup.append (reconcile_resolved_nodup ..)
    (reconcile_firing_nodup ..) ?_
  intro f hresolved hfiring
  obtain ⟨record, hrecord, rfl⟩ := List.mem_map.mp hresolved
  obtain ⟨incident, hincident, heq⟩ := List.mem_map.mp hfiring
  obtain ⟨f, row, -, hunobserved, -, rfl⟩ :=
    mem_reconcile_resolved_iff.mp hrecord
  obtain ⟨f', anomaly, hobserved, hfiring⟩ :=
    mem_reconcile_firing_iff.mp hincident
  rw [firingFor_fingerprint hfiring] at heq
  simp only [incidentRecord] at heq
  rw [heq, hunobserved] at hobserved
  cases hobserved

end Reconcile

/-! ## Acknowledgements -/

section Acknowledge

variable {fingerprint : F} {payload : AlertPayload F} {now : ℚ}
  {startsAt : Option Rfc3339}

theorem markResolved_get?_of_ne {f : F} (hne : f ≠ fingerprint) :
    (markResolved table fingerprint now).get? f = table.get? f := by
  rw [markResolved, OrderedDict.get?_mapValues]
  simp [hne]

theorem markEmitted_get?_of_ne {f : F} (hne : f ≠ fingerprint) :
    (markEmitted table fingerprint payload now startsAt).get? f =
      table.get? f := by
  rw [markEmitted, OrderedDict.get?_mapValues]
  simp [hne]

/-- After `mark_resolved` the incident has no open generation. -/
theorem markResolved_get?_self {row : Row F}
    (hrow : (markResolved table fingerprint now).get? fingerprint =
      some row) :
    row.status = .resolved ∧ ∃ row₀, table.get? fingerprint = some row₀ ∧
      row.identityKey = row₀.identityKey ∧
      row.startsAt = row₀.startsAt ∧ row.payloadJson = row₀.payloadJson ∧
      row.lastEmitted = row₀.lastEmitted ∧
      row.lastEmittedSeverity = row₀.lastEmittedSeverity := by
  rw [markResolved, OrderedDict.get?_mapValues] at hrow
  obtain ⟨row₀, hrow₀, rfl⟩ := Option.map_eq_some_iff.mp hrow
  rcases hstatus : row₀.status with _ | _
  · refine ⟨by simp, row₀, hrow₀, ?_⟩
    simp [Row.identityKey]
  · refine ⟨by simp [hstatus], row₀, hrow₀, ?_⟩
    simp [Row.identityKey]

/-- `mark_emitted` writes the open generation it names. -/
theorem markEmitted_get?_self {m : String} {g : Rfc3339}
    (h : OpenAs table m fingerprint g) (payload : AlertPayload F) (now : ℚ) :
    ∃ row, table.get? fingerprint = some row ∧ row.status = .active ∧
      row.minionId = m ∧ row.startsAt = g ∧
      (markEmitted table fingerprint payload now (some g)).get? fingerprint =
        some (row.emitted payload now) := by
  obtain ⟨row, hrow, hactive, hm, hg⟩ := h
  refine ⟨row, hrow, hactive, hm, hg, ?_⟩
  rw [markEmitted, OrderedDict.get?_mapValues, hrow]
  simp [hactive, hg]

theorem markEmitted_get?_cases {f : F} {row : Row F}
    (hrow : (markEmitted table fingerprint payload now startsAt).get? f =
      some row) :
    ∃ row₀, table.get? f = some row₀ ∧ row.identityKey = row₀.identityKey ∧
      row.status = row₀.status ∧ row.startsAt = row₀.startsAt := by
  rw [markEmitted, OrderedDict.get?_mapValues] at hrow
  obtain ⟨row₀, hrow₀, rfl⟩ := Option.map_eq_some_iff.mp hrow
  refine ⟨row₀, hrow₀, ?_⟩
  split
  · exact ⟨rfl, rfl, rfl⟩
  · exact ⟨rfl, rfl, rfl⟩

theorem KeyedBy.markResolved {scheme : FingerprintScheme F}
    (hkeyed : KeyedBy scheme table) :
    KeyedBy scheme (Incident.markResolved table fingerprint now) := by
  intro f row hrow
  by_cases hf : f = fingerprint
  · subst hf
    obtain ⟨-, row₀, hrow₀, hkey, -⟩ := markResolved_get?_self hrow
    rw [hkey]
    exact hkeyed f row₀ hrow₀
  · rw [markResolved_get?_of_ne hf] at hrow
    exact hkeyed f row hrow

theorem KeyedBy.markEmitted {scheme : FingerprintScheme F}
    (hkeyed : KeyedBy scheme table) :
    KeyedBy scheme
      (Incident.markEmitted table fingerprint payload now startsAt) := by
  intro f row hrow
  obtain ⟨row₀, hrow₀, hkey, -, -⟩ := markEmitted_get?_cases hrow
  rw [hkey]
  exact hkeyed f row₀ hrow₀

theorem OpenAs.markResolved {m : String} {f : F} {g : Rfc3339}
    (h : OpenAs table m f g) (hne : f ≠ fingerprint) :
    OpenAs (Incident.markResolved table fingerprint now) m f g := by
  obtain ⟨row, hrow, hopen⟩ := h
  exact ⟨row, (markResolved_get?_of_ne hne).trans hrow, hopen⟩

theorem OpenAs.markEmitted {m : String} {f : F} {g : Rfc3339}
    (h : OpenAs table m f g) :
    OpenAs (Incident.markEmitted table fingerprint payload now startsAt) m f
      g := by
  obtain ⟨row, hrow, hactive, hm, hg⟩ := h
  rw [OpenAs, Incident.markEmitted, OrderedDict.get?_mapValues, hrow]
  refine ⟨_, rfl, ?_⟩
  dsimp only
  split
  · exact ⟨hactive, hm, hg⟩
  · exact ⟨hactive, hm, hg⟩

end Acknowledge

end UyuniAgent.Incident
