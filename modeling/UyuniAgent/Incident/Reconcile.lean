import Mathlib.Data.List.Induction
import UyuniAgent.Incident.Store

/-!
# What one reconciliation does

`reconcile` runs two loops over dictionaries.  Here its effect is stated row by
row: each fingerprint's new row depends on its old row and on the anomaly
observed for it, and the two lists of `IncidentChanges` collect what the rows
say.
-/

namespace UyuniAgent.Incident

variable {F : Type} [DecidableEq F] {cfg : StoreSettings F}

/-! ## The observed identities -/

/-- The first of the most severe anomalies of a list. -/
def firstMostSevere : List Anomaly → Option Anomaly
  | [] => none
  | anomaly :: rest =>
      match firstMostSevere rest with
      | none => some anomaly
      | some later =>
          if severityRank anomaly.severity.value <
              severityRank later.severity.value then some later
          else some anomaly

/-- A new last element is selected when it is more severe than the rest. -/
theorem firstMostSevere_concat (anomalies : List Anomaly) (last : Anomaly) :
    firstMostSevere (anomalies ++ [last]) =
      match firstMostSevere anomalies with
      | none => some last
      | some existing =>
          if severityRank existing.severity.value <
              severityRank last.severity.value then some last
          else some existing := by
  induction anomalies with
  | nil => rfl
  | cons anomaly rest ih =>
      rw [List.cons_append, firstMostSevere, ih, firstMostSevere]
      rcases firstMostSevere rest with _ | later
      · rfl
      · by_cases hlater : severityRank anomaly.severity.value <
            severityRank later.severity.value
        · by_cases hlast : severityRank later.severity.value <
              severityRank last.severity.value
          · simp [hlater, hlast, hlater.trans hlast]
          · simp [hlater, hlast]
        · by_cases hlast : severityRank later.severity.value <
              severityRank last.severity.value
          · simp [hlater, hlast]
          · have hanomaly : ¬severityRank anomaly.severity.value <
                severityRank last.severity.value := by omega
            simp [hlater, hlast, hanomaly]

theorem firstMostSevere_eq_none_iff {anomalies : List Anomaly} :
    firstMostSevere anomalies = none ↔ anomalies = [] := by
  induction anomalies with
  | nil => simp [firstMostSevere]
  | cons anomaly rest ih =>
      rw [firstMostSevere]
      rcases firstMostSevere rest with _ | later
      · simp
      · simp only [reduceCtorEq, iff_false]
        split <;> simp

/-- What is selected is in the list, and nothing in the list is more
severe. -/
theorem firstMostSevere_spec {anomalies : List Anomaly} {anomaly : Anomaly}
    (h : firstMostSevere anomalies = some anomaly) :
    anomaly ∈ anomalies ∧ ∀ other ∈ anomalies,
      severityRank other.severity.value ≤
        severityRank anomaly.severity.value := by
  induction anomalies generalizing anomaly with
  | nil => simp [firstMostSevere] at h
  | cons first rest ih =>
      rw [firstMostSevere] at h
      rcases hrest : firstMostSevere rest with _ | later
      · obtain rfl := firstMostSevere_eq_none_iff.mp hrest
        simp only [hrest, Option.some.injEq] at h
        subst h
        simp
      · obtain ⟨hmem, hmost⟩ := ih hrest
        simp only [hrest] at h
        split at h
        next hlater =>
          obtain rfl := Option.some.inj h
          refine ⟨List.mem_cons_of_mem _ hmem, fun other hother => ?_⟩
          rcases List.mem_cons.mp hother with rfl | hother
          · exact hlater.le
          · exact hmost other hother
        next hlater =>
          obtain rfl := Option.some.inj h
          refine ⟨List.mem_cons_self, fun other hother => ?_⟩
          rcases List.mem_cons.mp hother with rfl | hother
          · exact le_rfl
          · exact (hmost other hother).trans (not_lt.mp hlater)

/-- The anomalies observed for a fingerprint. -/
def observationsOf (cfg : StoreSettings F) (anomalies : List Anomaly)
    (fingerprint : F) : List Anomaly :=
  anomalies.filter fun anomaly =>
    cfg.scheme.incidentFingerprint anomaly = fingerprint

theorem preferAnomaly_get?_of_ne
    (selected : OrderedDict F Anomaly) (anomaly : Anomaly) {fingerprint : F}
    (hne : cfg.scheme.incidentFingerprint anomaly ≠ fingerprint) :
    (preferAnomaly cfg selected anomaly).get? fingerprint =
      selected.get? fingerprint := by
  simp only [preferAnomaly]
  split
  · exact OrderedDict.get?_set_of_ne (Ne.symm hne)
  · split
    · exact OrderedDict.get?_set_of_ne (Ne.symm hne)
    · rfl

theorem preferAnomaly_get?_self
    (selected : OrderedDict F Anomaly) (anomaly : Anomaly) :
    (preferAnomaly cfg selected anomaly).get?
        (cfg.scheme.incidentFingerprint anomaly) =
      match selected.get? (cfg.scheme.incidentFingerprint anomaly) with
      | none => some anomaly
      | some existing =>
          if severityRank existing.severity.value <
              severityRank anomaly.severity.value then some anomaly
          else some existing := by
  cases hget : selected.get? (cfg.scheme.incidentFingerprint anomaly) with
  | none => simp [preferAnomaly, hget]
  | some existing =>
      simp only [preferAnomaly, hget]
      split
      · exact OrderedDict.get?_set_self
      · exact hget

/-- `_prefer_more_severe` selects, for each fingerprint, the first of its most
severe anomalies. -/
theorem preferMoreSevere_get? (anomalies : List Anomaly) (fingerprint : F) :
    (preferMoreSevere cfg anomalies).get? fingerprint =
      firstMostSevere (observationsOf cfg anomalies fingerprint) := by
  induction anomalies using List.reverseRecOn with
  | nil => rfl
  | append_singleton anomalies anomaly ih =>
      have hconcat : preferMoreSevere cfg (anomalies ++ [anomaly]) =
          preferAnomaly cfg (preferMoreSevere cfg anomalies) anomaly := by
        simp [preferMoreSevere]
      rw [hconcat]
      by_cases hf : cfg.scheme.incidentFingerprint anomaly = fingerprint
      · subst hf
        have hobs : observationsOf cfg (anomalies ++ [anomaly])
            (cfg.scheme.incidentFingerprint anomaly) =
            observationsOf cfg anomalies
              (cfg.scheme.incidentFingerprint anomaly) ++ [anomaly] := by
          simp [observationsOf]
        rw [hobs, firstMostSevere_concat, ← ih, preferAnomaly_get?_self]
      · have hobs : observationsOf cfg (anomalies ++ [anomaly]) fingerprint =
            observationsOf cfg anomalies fingerprint := by
          simp [observationsOf, hf]
        rw [hobs, ← ih]
        exact preferAnomaly_get?_of_ne _ _ hf

theorem mem_of_preferMoreSevere_get?
    {anomalies : List Anomaly} {fingerprint : F} {anomaly : Anomaly}
    (h : (preferMoreSevere cfg anomalies).get? fingerprint = some anomaly) :
    anomaly ∈ anomalies ∧
      cfg.scheme.incidentFingerprint anomaly = fingerprint := by
  rw [preferMoreSevere_get?] at h
  obtain ⟨hmem, -⟩ := firstMostSevere_spec h
  simpa [observationsOf] using hmem

theorem preferMoreSevere_get?_isSome_iff
    {anomalies : List Anomaly} {fingerprint : F} :
    ((preferMoreSevere cfg anomalies).get? fingerprint).isSome ↔
      ∃ anomaly ∈ anomalies,
        cfg.scheme.incidentFingerprint anomaly = fingerprint := by
  rw [preferMoreSevere_get?, Option.isSome_iff_ne_none, ne_eq,
    firstMostSevere_eq_none_iff]
  simp [observationsOf, List.filter_eq_nil_iff]

/-! ## The first loop -/

/-- The row of a fingerprint after the first loop. -/
def observedRow (minionId : String) (observedAt : ℚ) (active? : Option (Row F))
    (anomaly : Anomaly) (row? : Option (Row F)) : Option (Row F) :=
  match active?, row? with
  | some _, row? => row?.map fun row => row.observed anomaly observedAt
  | none, some row => some (row.reopened anomaly observedAt)
  | none, none => some (Row.opened minionId anomaly observedAt)

/-- The notification work for an observed fingerprint. -/
def firingFor (cfg : StoreSettings F) (observedAt : ℚ)
    (active? : Option (Row F)) (fingerprint : F) (anomaly : Anomaly) :
    Option (FiringIncident F) :=
  match active? with
  | none => some ⟨anomaly, fingerprint, rfc3339 observedAt, none⟩
  | some row =>
      if row.notifiable cfg anomaly observedAt then
        some ⟨anomaly, fingerprint, row.startsAt, row.payloadJson⟩
      else none

/-- The table part of the first loop's body. -/
def observeTable (minionId : String) (observedAt : ℚ) (active : Table F)
    (table : Table F) (entry : F × Anomaly) : Table F :=
  match active.get? entry.1 with
  | none =>
      table.set entry.1
        (match table.get? entry.1 with
        | none => Row.opened minionId entry.2 observedAt
        | some row => row.reopened entry.2 observedAt)
  | some _ =>
      table.mapValues fun fingerprint' row' =>
        if fingerprint' = entry.1 then row'.observed entry.2 observedAt
        else row'

theorem observeTable_get?_self
    (minionId : String) (observedAt : ℚ) (active table : Table F)
    (fingerprint : F) (anomaly : Anomaly) :
    (observeTable minionId observedAt active table
        (fingerprint, anomaly)).get? fingerprint =
      observedRow minionId observedAt (active.get? fingerprint) anomaly
        (table.get? fingerprint) := by
  cases hactive : active.get? fingerprint with
  | none =>
      cases hrow : table.get? fingerprint with
      | none => simp [observeTable, observedRow, hactive, hrow]
      | some row => simp [observeTable, observedRow, hactive, hrow]
  | some row => simp [observeTable, observedRow, hactive, OrderedDict.get?_mapValues]

theorem observeTable_get?_of_ne
    (minionId : String) (observedAt : ℚ) (active table : Table F)
    (fingerprint : F) (anomaly : Anomaly) (fingerprint' : F)
    (hne : fingerprint' ≠ fingerprint) :
    (observeTable minionId observedAt active table
        (fingerprint, anomaly)).get? fingerprint' =
      table.get? fingerprint' := by
  cases hactive : active.get? fingerprint with
  | none => simp [observeTable, hactive, OrderedDict.get?_set_of_ne hne]
  | some row =>
      simp [observeTable, hactive, OrderedDict.get?_mapValues, hne]

theorem observeIncident_eq
    (minionId : String) (observedAt : ℚ) (active table : Table F)
    (firing : List (FiringIncident F)) (fingerprint : F) (anomaly : Anomaly) :
    observeIncident cfg minionId observedAt active (table, firing)
        (fingerprint, anomaly) =
      (observeTable minionId observedAt active table (fingerprint, anomaly),
        firing ++ (firingFor cfg observedAt (active.get? fingerprint)
          fingerprint anomaly).toList) := by
  cases hactive : active.get? fingerprint with
  | none =>
      cases hrow : table.get? fingerprint with
      | none => simp [observeIncident, observeTable, firingFor, hactive, hrow]
      | some row => simp [observeIncident, observeTable, firingFor, hactive, hrow]
  | some row =>
      by_cases hnotify : row.notifiable cfg anomaly observedAt = true
      · simp [observeIncident, observeTable, firingFor, hactive, hnotify]
      · simp [observeIncident, observeTable, firingFor, hactive, hnotify]

theorem foldl_observeIncident
    (minionId : String) (observedAt : ℚ) (active : Table F)
    (entries : List (F × Anomaly)) (table : Table F)
    (firing : List (FiringIncident F)) :
    entries.foldl (observeIncident cfg minionId observedAt active)
        (table, firing) =
      (entries.foldl (observeTable minionId observedAt active) table,
        firing ++ entries.filterMap fun entry =>
          firingFor cfg observedAt (active.get? entry.1) entry.1 entry.2) := by
  induction entries generalizing table firing with
  | nil => simp
  | cons entry rest ih =>
      obtain ⟨fingerprint, anomaly⟩ := entry
      rw [List.foldl_cons, List.foldl_cons, List.filterMap_cons,
        observeIncident_eq, ih]
      cases firingFor cfg observedAt (active.get? fingerprint) fingerprint
          anomaly with
      | none => simp
      | some incident => simp

/-! ## The second loop -/

def missTable (current : OrderedDict F Anomaly) (table : Table F)
    (entry : F × Row F) : Table F :=
  if (current.get? entry.1).isSome then table
  else
    table.mapValues fun fingerprint' row' =>
      if fingerprint' = entry.1 then
        { row' with consecutiveAbsent := entry.2.consecutiveAbsent + 1 }
      else row'

/-- The record of an active, unobserved row that has been absent long
enough. -/
def resolvedFor (cfg : StoreSettings F) (current : OrderedDict F Anomaly)
    (entry : F × Row F) : Option (IncidentRecord F) :=
  if (current.get? entry.1).isSome then none
  else if cfg.resolveAfterHealthyCycles ≤ entry.2.consecutiveAbsent + 1 then
    some (incidentRecord entry.1 entry.2 (entry.2.consecutiveAbsent + 1))
  else none

theorem missTable_get?_self
    (current : OrderedDict F Anomaly) (table : Table F) (fingerprint : F)
    (row : Row F) :
    (missTable current table (fingerprint, row)).get? fingerprint =
      if (current.get? fingerprint).isSome then table.get? fingerprint
      else (table.get? fingerprint).map fun row' =>
        { row' with consecutiveAbsent := row.consecutiveAbsent + 1 } := by
  cases hcurrent : current.get? fingerprint with
  | none => simp [missTable, hcurrent, OrderedDict.get?_mapValues]
  | some anomaly => simp [missTable, hcurrent]

theorem missTable_get?_of_ne
    (current : OrderedDict F Anomaly) (table : Table F) (fingerprint : F)
    (row : Row F) (fingerprint' : F) (hne : fingerprint' ≠ fingerprint) :
    (missTable current table (fingerprint, row)).get? fingerprint' =
      table.get? fingerprint' := by
  cases hcurrent : current.get? fingerprint with
  | none => simp [missTable, hcurrent, OrderedDict.get?_mapValues, hne]
  | some anomaly => simp [missTable, hcurrent]

theorem missIncident_eq
    (current : OrderedDict F Anomaly) (table : Table F)
    (resolved : List (IncidentRecord F)) (entry : F × Row F) :
    missIncident cfg current (table, resolved) entry =
      (missTable current table entry,
        resolved ++ (resolvedFor cfg current entry).toList) := by
  obtain ⟨fingerprint, row⟩ := entry
  by_cases hcurrent : (current.get? fingerprint).isSome = true
  · simp [missIncident, missTable, resolvedFor, hcurrent]
  · by_cases habsent :
        cfg.resolveAfterHealthyCycles ≤ row.consecutiveAbsent + 1
    · simp [missIncident, missTable, resolvedFor, hcurrent, habsent]
    · simp [missIncident, missTable, resolvedFor, hcurrent, habsent]

theorem foldl_missIncident
    (current : OrderedDict F Anomaly) (entries : List (F × Row F))
    (table : Table F) (resolved : List (IncidentRecord F)) :
    entries.foldl (missIncident cfg current) (table, resolved) =
      (entries.foldl (missTable current) table,
        resolved ++ entries.filterMap (resolvedFor cfg current)) := by
  induction entries generalizing table resolved with
  | nil => simp
  | cons entry rest ih =>
      rw [List.foldl_cons, List.foldl_cons, List.filterMap_cons,
        missIncident_eq, ih]
      cases resolvedFor cfg current entry with
      | none => simp
      | some record => simp

/-! ## One row through a reconciliation -/

def Row.identityKey (row : Row F) : IdentityKey :=
  ⟨row.minionId, row.metricName, row.serviceName, row.resource⟩

omit [DecidableEq F] in
/-- Writing over a row of the same identity is as good as inserting one. -/
theorem Row.reopened_eq_opened
    {row : Row F} {anomaly : Anomaly} {now : ℚ}
    (hkey : row.identityKey = anomaly.identityKey) :
    row.reopened anomaly now = Row.opened anomaly.minionId anomaly now := by
  simp only [Row.identityKey, Anomaly.identityKey, IdentityKey.mk.injEq] at hkey
  obtain ⟨hminion, hmetric, hservice, hresource⟩ := hkey
  simp [Row.reopened, Row.opened, hminion, hmetric, hservice, hresource]

/-- The row of a fingerprint after `reconcile`, from its row before and the
anomaly observed for it. -/
def reconciledRow (minionId : String) (observedAt : ℚ)
    (anomaly? : Option Anomaly) (row? : Option (Row F)) : Option (Row F) :=
  match anomaly?, row? with
  | some anomaly, some row =>
      if row.activeFor minionId then some (row.observed anomaly observedAt)
      else some (row.reopened anomaly observedAt)
  | some anomaly, none => some (Row.opened minionId anomaly observedAt)
  | none, some row =>
      if row.activeFor minionId then
        some { row with consecutiveAbsent := row.consecutiveAbsent + 1 }
      else some row
  | none, none => none

/-- The active row of a fingerprint, as the `SELECT` of `reconcile` sees it. -/
def activeRow (table : Table F) (minionId : String) (fingerprint : F) :
    Option (Row F) :=
  (table.get? fingerprint).filter fun row => row.activeFor minionId

theorem get?_active (table : Table F) (minionId : String) (fingerprint : F) :
    (table.filter fun entry => entry.2.activeFor minionId).get? fingerprint =
      activeRow table minionId fingerprint :=
  OrderedDict.get?_filter

theorem activeRow_eq_some_iff
    {table : Table F} {minionId : String} {fingerprint : F} {row : Row F} :
    activeRow table minionId fingerprint = some row ↔
      table.get? fingerprint = some row ∧ row.activeFor minionId = true := by
  simp [activeRow, Option.filter_eq_some_iff]

theorem reconcile_get?
    (cfg : StoreSettings F) (table : Table F) (minionId : String)
    (anomalies : List Anomaly) (observedAt : ℚ) (fingerprint : F) :
    (reconcile cfg table minionId anomalies observedAt).2.get? fingerprint =
      reconciledRow minionId observedAt
        ((preferMoreSevere cfg anomalies).get? fingerprint)
        (table.get? fingerprint) := by
  simp only [reconcile, foldl_observeIncident, foldl_missIncident]
  rw [OrderedDict.get?_foldl_entries
      (u := fun f row row? =>
        if ((preferMoreSevere cfg anomalies).get? f).isSome then row?
        else row?.map fun row' =>
          { row' with consecutiveAbsent := row.consecutiveAbsent + 1 })
      (fun d f row => missTable_get?_self _ d f row)
      (fun d f row f' hne => missTable_get?_of_ne _ d f row f' hne),
    OrderedDict.get?_foldl_entries
      (u := fun f anomaly row? =>
        observedRow minionId observedAt (activeRow table minionId f) anomaly
          row?)
      (fun d f anomaly => by rw [observeTable_get?_self, get?_active])
      (fun d f anomaly f' hne => observeTable_get?_of_ne _ _ _ d f anomaly f' hne),
    get?_active]
  cases hrow : table.get? fingerprint with
  | none =>
      have hactive : activeRow table minionId fingerprint = none := by
        simp [activeRow, hrow]
      rw [hactive]
      cases (preferMoreSevere cfg anomalies).get? fingerprint with
      | none => rfl
      | some anomaly => rfl
  | some row =>
      by_cases hmine : row.activeFor minionId = true
      · have hactive : activeRow table minionId fingerprint = some row :=
          activeRow_eq_some_iff.mpr ⟨hrow, hmine⟩
        rw [hactive]
        cases (preferMoreSevere cfg anomalies).get? fingerprint with
        | none => simp [reconciledRow, hmine]
        | some anomaly => simp [reconciledRow, observedRow, hmine]
      · have hactive : activeRow table minionId fingerprint = none := by
          simp [activeRow, hrow, hmine]
        rw [hactive]
        cases (preferMoreSevere cfg anomalies).get? fingerprint with
        | none => simp [reconciledRow, hmine]
        | some anomaly => simp [reconciledRow, observedRow, hmine]

omit [DecidableEq F] in
/-- A missed incident keeps its row, and counts the cycle while it is open. -/
theorem reconciledRow_missed
    {minionId : String} {observedAt : ℚ} {row? : Option (Row F)} {row' : Row F}
    (h : reconciledRow minionId observedAt none row? = some row') :
    ∃ row, row? = some row ∧
      (row.activeFor minionId = true ∧
          row' = { row with consecutiveAbsent := row.consecutiveAbsent + 1 } ∨
        row.activeFor minionId ≠ true ∧ row' = row) := by
  cases row? with
  | none => cases h
  | some row =>
      refine ⟨row, rfl, ?_⟩
      simp only [reconciledRow] at h
      split at h
      next hmine => exact Or.inl ⟨hmine, (Option.some.inj h).symm⟩
      next hother => exact Or.inr ⟨hother, (Option.some.inj h).symm⟩

omit [DecidableEq F] in
/-- An observed incident goes on in its row, or starts in it anew. -/
theorem reconciledRow_observed
    {minionId : String} {observedAt : ℚ} {anomaly : Anomaly}
    {row? : Option (Row F)} {row' : Row F}
    (h : reconciledRow minionId observedAt (some anomaly) row? = some row') :
    row'.consecutiveAbsent = 0 ∧
      ((∃ row, row? = some row ∧ row' = row.observed anomaly observedAt) ∨
        row'.startsAt = rfc3339 observedAt) := by
  cases row? with
  | none =>
      obtain rfl := Option.some.inj h
      exact ⟨rfl, Or.inr rfl⟩
  | some row =>
      simp only [reconciledRow] at h
      split at h
      · obtain rfl := Option.some.inj h
        exact ⟨rfl, Or.inl ⟨row, rfl, rfl⟩⟩
      · obtain rfl := Option.some.inj h
        exact ⟨rfl, Or.inr rfl⟩

theorem mem_reconcile_firing_iff
    {cfg : StoreSettings F} {table : Table F} {minionId : String}
    {anomalies : List Anomaly} {observedAt : ℚ} {incident : FiringIncident F} :
    incident ∈ (reconcile cfg table minionId anomalies observedAt).1.firing ↔
      ∃ fingerprint anomaly,
        (preferMoreSevere cfg anomalies).get? fingerprint = some anomaly ∧
        firingFor cfg observedAt (activeRow table minionId fingerprint)
          fingerprint anomaly = some incident := by
  simp only [reconcile, foldl_observeIncident, foldl_missIncident,
    List.nil_append, List.mem_filterMap, Prod.exists, get?_active,
    ← OrderedDict.get?_eq_some_iff]

theorem mem_reconcile_resolved_iff
    {cfg : StoreSettings F} {table : Table F} {minionId : String}
    {anomalies : List Anomaly} {observedAt : ℚ} {record : IncidentRecord F} :
    record ∈ (reconcile cfg table minionId anomalies observedAt).1.resolved ↔
      ∃ fingerprint row,
        activeRow table minionId fingerprint = some row ∧
        (preferMoreSevere cfg anomalies).get? fingerprint = none ∧
        cfg.resolveAfterHealthyCycles ≤ row.consecutiveAbsent + 1 ∧
        record = incidentRecord fingerprint row (row.consecutiveAbsent + 1) := by
  simp only [reconcile, foldl_observeIncident, foldl_missIncident,
    List.nil_append, List.mem_filterMap, Prod.exists,
    ← OrderedDict.get?_eq_some_iff, get?_active]
  constructor
  · rintro ⟨fingerprint, row, hactive, hresolved⟩
    refine ⟨fingerprint, row, hactive, ?_⟩
    simp only [resolvedFor] at hresolved
    split at hresolved
    · cases hresolved
    next hunobserved =>
      split at hresolved
      next habsent =>
        exact ⟨by simpa using hunobserved, habsent,
          (Option.some.inj hresolved).symm⟩
      next => cases hresolved
  · rintro ⟨fingerprint, row, hactive, hunobserved, habsent, rfl⟩
    refine ⟨fingerprint, row, hactive, ?_⟩
    simp [resolvedFor, hunobserved, habsent]

/-! ## One item for each incident -/

omit [DecidableEq F] in
theorem firingFor_fingerprint
    {observedAt : ℚ} {active? : Option (Row F)} {fingerprint : F}
    {anomaly : Anomaly} {incident : FiringIncident F}
    (h : firingFor cfg observedAt active? fingerprint anomaly =
      some incident) :
    incident.fingerprint = fingerprint := by
  cases active? with
  | none =>
      obtain rfl := Option.some.inj h
      rfl
  | some row =>
      simp only [firingFor] at h
      split at h
      · obtain rfl := Option.some.inj h
        rfl
      · cases h

omit [DecidableEq F] in
theorem firingFor_anomaly
    {observedAt : ℚ} {active? : Option (Row F)} {fingerprint : F}
    {anomaly : Anomaly} {incident : FiringIncident F}
    (h : firingFor cfg observedAt active? fingerprint anomaly =
      some incident) :
    incident.anomaly = anomaly := by
  cases active? with
  | none =>
      obtain rfl := Option.some.inj h
      rfl
  | some row =>
      simp only [firingFor] at h
      split at h
      · obtain rfl := Option.some.inj h
        rfl
      · cases h

theorem resolvedFor_fingerprint
    {current : OrderedDict F Anomaly} {entry : F × Row F}
    {record : IncidentRecord F}
    (h : resolvedFor cfg current entry = some record) :
    record.fingerprint = entry.1 := by
  simp only [resolvedFor] at h
  split at h
  · cases h
  · split at h
    · obtain rfl := Option.some.inj h
      rfl
    · cases h

theorem reconcile_firing_nodup
    (cfg : StoreSettings F) (table : Table F) (minionId : String)
    (anomalies : List Anomaly) (observedAt : ℚ) :
    ((reconcile cfg table minionId anomalies observedAt).1.firing.map
      (·.fingerprint)).Nodup := by
  simp only [reconcile, foldl_observeIncident, foldl_missIncident,
    List.nil_append]
  exact (preferMoreSevere cfg anomalies).nodup_map_filterMap_entries
    fun _ _ h => firingFor_fingerprint h

theorem reconcile_resolved_nodup
    (cfg : StoreSettings F) (table : Table F) (minionId : String)
    (anomalies : List Anomaly) (observedAt : ℚ) :
    ((reconcile cfg table minionId anomalies observedAt).1.resolved.map
      (·.fingerprint)).Nodup := by
  simp only [reconcile, foldl_observeIncident, foldl_missIncident,
    List.nil_append]
  exact (table.filter fun entry => entry.2.activeFor minionId)
    |>.nodup_map_filterMap_entries fun _ _ h => resolvedFor_fingerprint h

end UyuniAgent.Incident
