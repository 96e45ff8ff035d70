import UyuniAgent.Incident.Generation
import UyuniAgent.Incident.History

/-!
# The minions share one table

All minions keep their incidents in one table whose key is the fingerprint
alone.  The fingerprint covers the minion, so every incident has one owner, and
what is done on behalf of a minion reads and writes the rows of its own
incidents only.
-/

namespace UyuniAgent.Incident

variable {F : Type} [DecidableEq F] {cfg : StoreSettings F}

/-! ## Calls on behalf of a minion -/

/-- The fingerprint is one of an incident of the minion. -/
def Owns (scheme : FingerprintScheme F) (m : String) (f : F) : Prop :=
  ∃ k : IdentityKey, scheme.digest k = f ∧ k.minionId = m

/-- The methods of the store. -/
inductive StoreOp (F : Type)
  | change (call : StoreCall F)
  | isActionable (fingerprint : F) (startsAt : Rfc3339)

inductive StoreResult (F : Type)
  | changes (changes : IncidentChanges F)
  | answer (actionable : Bool)
  | done
  deriving DecidableEq

def StoreOp.run (cfg : StoreSettings F) (op : StoreOp F) (table : Table F) :
    StoreResult F × Table F :=
  match op with
  | .change (.reconcile minionId anomalies now) =>
      let (changes, table') := reconcile cfg table minionId anomalies now
      (.changes changes, table')
  | .change call => (.done, call.apply cfg table)
  | .isActionable fingerprint startsAt =>
      (.answer (Incident.isActionable table fingerprint startsAt), table)

/-- The call is one on incidents of the minion. -/
def StoreOp.On (scheme : FingerprintScheme F) (m : String) : StoreOp F → Prop
  | .change (.reconcile minionId anomalies _) =>
      minionId = m ∧ ∀ a ∈ anomalies, a.minionId = m
  | .change (.markEmitted fingerprint _ _ _) => Owns scheme m fingerprint
  | .change (.markResolved fingerprint _) => Owns scheme m fingerprint
  | .isActionable fingerprint _ => Owns scheme m fingerprint

/-- What the calls of all minions return, each with its minion, and the table
they leave behind. -/
def runAll (cfg : StoreSettings F) :
    List (String × StoreOp F) → Table F → List (String × StoreResult F) × Table F
  | [], table => ([], table)
  | (m, op) :: rest, table =>
      let (result, table') := op.run cfg table
      let (results, table'') := runAll cfg rest table'
      ((m, result) :: results, table'')

/-- The rows of a minion, in the order of the table. -/
def rowsOf (m : String) (table : Table F) : Table F :=
  table.filter fun entry => entry.2.minionId = m

/-! ## Owners -/

section Owners

variable {scheme : FingerprintScheme F} {m m' : String} {f : F}

omit [DecidableEq F] in
theorem Owns.unique (h : Owns scheme m f) (h' : Owns scheme m' f) : m = m' := by
  obtain ⟨k, hk, rfl⟩ := h
  obtain ⟨k', hk', rfl⟩ := h'
  obtain rfl : k = k' := scheme.digest_injective (hk.trans hk'.symm)
  rfl

omit [DecidableEq F] in
theorem owns_of_anomaly {anomaly : Anomaly} (hm : anomaly.minionId = m) :
    Owns scheme m (scheme.incidentFingerprint anomaly) :=
  ⟨anomaly.identityKey, rfl, hm⟩

/-- Every row is stored under a fingerprint of its minion. -/
def RowsOwned (scheme : FingerprintScheme F) (table : Table F) : Prop :=
  ∀ f row, table.get? f = some row → Owns scheme row.minionId f

theorem RowsOwned.minionId_eq {table : Table F} {row : Row F}
    (h : RowsOwned scheme table) (hf : Owns scheme m f)
    (hrow : table.get? f = some row) : row.minionId = m :=
  (h f row hrow).unique hf

theorem RowsOwned.set {table : Table F} {row : Row F}
    (h : RowsOwned scheme table) (hf : Owns scheme row.minionId f) :
    RowsOwned scheme (table.set f row) :=
  OrderedDict.forall_set h hf

theorem RowsOwned.mapValues {table : Table F} {g : F → Row F → Row F}
    (h : RowsOwned scheme table)
    (hg : ∀ f row, (g f row).minionId = row.minionId) :
    RowsOwned scheme (table.mapValues g) := by
  intro f row hrow
  rw [OrderedDict.get?_mapValues] at hrow
  obtain ⟨row₀, hrow₀, rfl⟩ := Option.map_eq_some_iff.mp hrow
  rw [hg]
  exact h f row₀ hrow₀

/-- Rewriting rows without moving them commutes with the choice of rows. -/
theorem rowsOf_mapValues {table : Table F} {g : F → Row F → Row F}
    (hg : ∀ f row, (g f row).minionId = row.minionId) :
    rowsOf m (table.mapValues g) = (rowsOf m table).mapValues g := by
  apply OrderedDict.filter_mapValues
  intro f row _
  rw [hg]

/-- What is written to one incident does not show in the rows of another
minion. -/
theorem rowsOf_mapValues_of_foreign {table : Table F} {g : F → Row F → Row F}
    (h : RowsOwned scheme table) (hf : Owns scheme m' f) (hne : m' ≠ m)
    (hg : ∀ f row, (g f row).minionId = row.minionId)
    (hother : ∀ f' row, f' ≠ f → g f' row = row) :
    rowsOf m (table.mapValues g) = rowsOf m table := by
  rw [rowsOf_mapValues hg]
  apply OrderedDict.mapValues_eq_self
  intro f' row hrow
  rw [rowsOf, OrderedDict.get?_filter, Option.filter_eq_some_iff] at hrow
  obtain ⟨hrow, hm⟩ := hrow
  apply hother
  rintro rfl
  exact hne ((h.minionId_eq hf hrow).symm.trans (of_decide_eq_true hm))

theorem get?_rowsOf {table : Table F} (h : RowsOwned scheme table)
    (hf : Owns scheme m f) : (rowsOf m table).get? f = table.get? f := by
  rw [rowsOf, OrderedDict.get?_filter]
  rcases hrow : table.get? f with _ | row
  · rfl
  · simp [h.minionId_eq hf hrow]

end Owners

/-! ## The loops of `reconcile` -/

section Loops

variable {m m' : String} {active table : Table F} {now : ℚ}
  {entry : F × Anomaly}

theorem rowsOwned_observeTable (h : RowsOwned cfg.scheme table)
    (hf : Owns cfg.scheme m entry.1) :
    RowsOwned cfg.scheme (observeTable m now active table entry) := by
  rw [observeTable]
  split
  · apply h.set
    split
    · exact hf
    next row hrow => exact h entry.1 row hrow
  · apply h.mapValues
    intro f row
    split
    · rfl
    · rfl

theorem rowsOf_observeTable (h : RowsOwned cfg.scheme table)
    (hf : Owns cfg.scheme m entry.1) :
    rowsOf m (observeTable m now active table entry) =
      observeTable m now active (rowsOf m table) entry := by
  simp only [observeTable]
  split
  · rw [get?_rowsOf h hf]
    apply OrderedDict.filter_set_of_kept
    · split
      · exact decide_eq_true rfl
      next row hrow =>
        have hm : row.minionId = m := h.minionId_eq hf hrow
        exact decide_eq_true hm
    · intro row hrow
      exact decide_eq_true (h.minionId_eq hf hrow)
  · apply rowsOf_mapValues
    intro f row
    split
    · rfl
    · rfl

theorem rowsOf_observeTable_of_foreign (h : RowsOwned cfg.scheme table)
    (hf : Owns cfg.scheme m' entry.1) (hne : m' ≠ m) :
    rowsOf m (observeTable m' now active table entry) = rowsOf m table := by
  rw [observeTable]
  split
  · apply OrderedDict.filter_set_of_left_out
    · split
      · exact decide_eq_false hne
      next row hrow =>
        have hm : row.minionId = m' := h.minionId_eq hf hrow
        exact decide_eq_false (hm.symm ▸ hne)
    · intro row hrow
      apply decide_eq_false
      rw [h.minionId_eq hf hrow]
      exact hne
  · apply rowsOf_mapValues_of_foreign h hf hne
    · intro f row
      split
      · rfl
      · rfl
    · intro f row hother
      exact if_neg hother

theorem rowsOwned_foldl_observeTable {entries : List (F × Anomaly)}
    (h : RowsOwned cfg.scheme table)
    (hf : ∀ entry ∈ entries, Owns cfg.scheme m entry.1) :
    RowsOwned cfg.scheme (entries.foldl (observeTable m now active) table) := by
  induction entries generalizing table with
  | nil => exact h
  | cons entry rest ih =>
      apply ih (rowsOwned_observeTable h (hf entry List.mem_cons_self))
      intro other hother
      exact hf other (List.mem_cons_of_mem entry hother)

theorem rowsOf_foldl_observeTable {entries : List (F × Anomaly)}
    (h : RowsOwned cfg.scheme table)
    (hf : ∀ entry ∈ entries, Owns cfg.scheme m entry.1) :
    rowsOf m (entries.foldl (observeTable m now active) table) =
      entries.foldl (observeTable m now active) (rowsOf m table) := by
  induction entries generalizing table with
  | nil => rfl
  | cons entry rest ih =>
      have hentry := hf entry List.mem_cons_self
      have hrest : ∀ other ∈ rest, Owns cfg.scheme m other.1 := by
        intro other hother
        exact hf other (List.mem_cons_of_mem entry hother)
      rw [List.foldl_cons, ih (rowsOwned_observeTable h hentry) hrest,
        rowsOf_observeTable h hentry, List.foldl_cons]

theorem rowsOf_foldl_observeTable_of_foreign {entries : List (F × Anomaly)}
    (h : RowsOwned cfg.scheme table)
    (hf : ∀ entry ∈ entries, Owns cfg.scheme m' entry.1) (hne : m' ≠ m) :
    rowsOf m (entries.foldl (observeTable m' now active) table) =
      rowsOf m table := by
  induction entries generalizing table with
  | nil => rfl
  | cons entry rest ih =>
      have hentry := hf entry List.mem_cons_self
      have hrest : ∀ other ∈ rest, Owns cfg.scheme m' other.1 := by
        intro other hother
        exact hf other (List.mem_cons_of_mem entry hother)
      rw [List.foldl_cons, ih (rowsOwned_observeTable h hentry) hrest,
        rowsOf_observeTable_of_foreign h hentry hne]

variable {current : OrderedDict F Anomaly} {entries : List (F × Row F)}

theorem rowsOwned_missTable {entry : F × Row F}
    (h : RowsOwned cfg.scheme table) :
    RowsOwned cfg.scheme (missTable current table entry) := by
  rw [missTable]
  split
  · exact h
  · apply h.mapValues
    intro f row
    split
    · rfl
    · rfl

theorem rowsOwned_foldl_missTable (h : RowsOwned cfg.scheme table) :
    RowsOwned cfg.scheme (entries.foldl (missTable current) table) := by
  induction entries generalizing table with
  | nil => exact h
  | cons entry rest ih => exact ih (rowsOwned_missTable h)

theorem rowsOf_foldl_missTable :
    rowsOf m (entries.foldl (missTable current) table) =
      entries.foldl (missTable current) (rowsOf m table) := by
  induction entries generalizing table with
  | nil => rfl
  | cons entry rest ih =>
      rw [List.foldl_cons, ih, List.foldl_cons]
      congr 1
      rw [missTable, missTable]
      split
      · rfl
      · apply rowsOf_mapValues
        intro f row
        split
        · rfl
        · rfl

theorem rowsOf_foldl_missTable_of_foreign (h : RowsOwned cfg.scheme table)
    (hf : ∀ entry ∈ entries, Owns cfg.scheme m' entry.1) (hne : m' ≠ m) :
    rowsOf m (entries.foldl (missTable current) table) = rowsOf m table := by
  induction entries generalizing table with
  | nil => rfl
  | cons entry rest ih =>
      have hrest : ∀ other ∈ rest, Owns cfg.scheme m' other.1 := by
        intro other hother
        exact hf other (List.mem_cons_of_mem entry hother)
      rw [List.foldl_cons, ih (rowsOwned_missTable h) hrest, missTable]
      split
      · rfl
      · apply rowsOf_mapValues_of_foreign h (hf entry List.mem_cons_self) hne
        · intro f row
          split
          · rfl
          · rfl
        · intro f row hother
          exact if_neg hother

end Loops

/-! ## One call -/

section Run

variable {m m' : String} {table : Table F}

/-- The incidents that a reconciliation observes are the minion's. -/
theorem owns_of_observed {anomalies : List Anomaly}
    (hcarries : ∀ a ∈ anomalies, a.minionId = m) :
    ∀ entry ∈ (preferMoreSevere cfg anomalies).entries,
      Owns cfg.scheme m entry.1 := by
  rintro ⟨f, anomaly⟩ hentry
  obtain ⟨hmem, rfl⟩ :=
    mem_of_preferMoreSevere_get? (OrderedDict.get?_of_mem_entries hentry)
  exact owns_of_anomaly (hcarries anomaly hmem)

/-- The incidents that are open for a minion are the minion's. -/
theorem owns_of_active (h : RowsOwned cfg.scheme table) :
    ∀ entry ∈ (table.filter fun entry => entry.2.activeFor m).entries,
      Owns cfg.scheme m entry.1 := by
  rintro ⟨f, row⟩ hentry
  have hrow := OrderedDict.get?_of_mem_entries hentry
  rw [OrderedDict.get?_filter, Option.filter_eq_some_iff] at hrow
  obtain ⟨hrow, hactive⟩ := hrow
  simp only [Row.activeFor, Bool.and_eq_true, decide_eq_true_eq] at hactive
  rw [← hactive.1]
  exact h f row hrow

omit [DecidableEq F] in
/-- The open rows of a minion are among its rows. -/
theorem active_rowsOf (m : String) (table : Table F) :
    ((rowsOf m table).filter fun entry => entry.2.activeFor m) =
      table.filter fun entry => entry.2.activeFor m := by
  apply OrderedDict.ext_entries
  change (table.entries.filter _).filter _ = table.entries.filter _
  rw [List.filter_filter]
  apply List.filter_congr
  rintro ⟨f, row⟩ _
  by_cases hm : row.minionId = m
  · simp [Row.activeFor, hm]
  · simp [Row.activeFor, hm]

/-- A reconciliation reads and writes the rows of its minion. -/
theorem reconcile_rowsOf (h : RowsOwned cfg.scheme table)
    {anomalies : List Anomaly} (hcarries : ∀ a ∈ anomalies, a.minionId = m)
    (now : ℚ) :
    reconcile cfg (rowsOf m table) m anomalies now =
      ((reconcile cfg table m anomalies now).1,
        rowsOf m (reconcile cfg table m anomalies now).2) := by
  simp only [reconcile, foldl_observeIncident, foldl_missIncident,
    active_rowsOf, rowsOf_foldl_missTable]
  rw [rowsOf_foldl_observeTable h (owns_of_observed hcarries)]

theorem reconcile_rowsOf_of_foreign (h : RowsOwned cfg.scheme table)
    {anomalies : List Anomaly} (hcarries : ∀ a ∈ anomalies, a.minionId = m')
    (hne : m' ≠ m) (now : ℚ) :
    rowsOf m (reconcile cfg table m' anomalies now).2 = rowsOf m table := by
  have hobserved : ∀ entry ∈ (preferMoreSevere cfg anomalies).entries,
      Owns cfg.scheme m' entry.1 :=
    owns_of_observed hcarries
  simp only [reconcile, foldl_observeIncident, foldl_missIncident]
  rw [rowsOf_foldl_missTable_of_foreign
      (rowsOwned_foldl_observeTable h hobserved) (owns_of_active h) hne,
    rowsOf_foldl_observeTable_of_foreign h hobserved hne]

theorem RowsOwned.reconcile (h : RowsOwned cfg.scheme table)
    {anomalies : List Anomaly} (hcarries : ∀ a ∈ anomalies, a.minionId = m)
    (now : ℚ) :
    RowsOwned cfg.scheme
      (Incident.reconcile cfg table m anomalies now).2 := by
  simp only [Incident.reconcile, foldl_observeIncident, foldl_missIncident]
  apply rowsOwned_foldl_missTable
  exact rowsOwned_foldl_observeTable h (owns_of_observed hcarries)

theorem isActionable_rowsOf (h : RowsOwned cfg.scheme table) {f : F}
    (hf : Owns cfg.scheme m f) (startsAt : Rfc3339) :
    isActionable (rowsOf m table) f startsAt =
      isActionable table f startsAt := by
  rw [isActionable, isActionable, get?_rowsOf h hf]

/-- Delivering an alert and closing an incident move no row. -/
theorem minionId_markEmitted {fingerprint : F} {payload : AlertPayload F}
    {now : ℚ} {startsAt : Option Rfc3339} (f : F) (row : Row F) :
    (if f = fingerprint ∧ row.status = .active ∧
        (∀ s ∈ startsAt, row.startsAt = s) then row.emitted payload now
      else row).minionId = row.minionId := by
  split
  · rfl
  · rfl

theorem minionId_markResolved {fingerprint : F} {now : ℚ} (f : F)
    (row : Row F) :
    (if f = fingerprint ∧ row.status = .active then
        { row with status := .resolved, resolvedAt := some now }
      else row).minionId = row.minionId := by
  split
  · rfl
  · rfl

theorem rowsOf_markEmitted {fingerprint : F} {payload : AlertPayload F}
    {now : ℚ} {startsAt : Option Rfc3339} :
    rowsOf m (markEmitted table fingerprint payload now startsAt) =
      markEmitted (rowsOf m table) fingerprint payload now startsAt :=
  rowsOf_mapValues minionId_markEmitted

theorem rowsOf_markResolved {fingerprint : F} {now : ℚ} :
    rowsOf m (markResolved table fingerprint now) =
      markResolved (rowsOf m table) fingerprint now :=
  rowsOf_mapValues minionId_markResolved

/-- A call on behalf of a minion does to the minion's rows what it does to the
whole table. -/
theorem run_rowsOf {op : StoreOp F} (h : RowsOwned cfg.scheme table)
    (hon : op.On cfg.scheme m) :
    op.run cfg (rowsOf m table) =
      ((op.run cfg table).1, rowsOf m (op.run cfg table).2) := by
  rcases op with (⟨minionId, anomalies, now⟩ | ⟨f, payload, now, startsAt⟩ |
    ⟨f, now⟩) | ⟨f, startsAt⟩
  · obtain ⟨rfl, hcarries⟩ := hon
    simp only [StoreOp.run, reconcile_rowsOf h hcarries]
  · exact congrArg (Prod.mk StoreResult.done) rowsOf_markEmitted.symm
  · exact congrArg (Prod.mk StoreResult.done) rowsOf_markResolved.symm
  · simp only [StoreOp.run, isActionable_rowsOf h hon]

/-- A call on behalf of another minion leaves the minion's rows alone. -/
theorem run_rowsOf_of_foreign {op : StoreOp F}
    (h : RowsOwned cfg.scheme table) (hon : op.On cfg.scheme m')
    (hne : m' ≠ m) : rowsOf m (op.run cfg table).2 = rowsOf m table := by
  rcases op with (⟨minionId, anomalies, now⟩ | ⟨f, payload, now, startsAt⟩ |
    ⟨f, now⟩) | ⟨f, startsAt⟩
  · obtain ⟨rfl, hcarries⟩ := hon
    exact reconcile_rowsOf_of_foreign h hcarries hne now
  · apply rowsOf_mapValues_of_foreign h hon hne minionId_markEmitted
    intro f' row hother
    exact if_neg fun hwritten => hother hwritten.1
  · apply rowsOf_mapValues_of_foreign h hon hne minionId_markResolved
    intro f' row hother
    exact if_neg fun hwritten => hother hwritten.1
  · rfl

theorem RowsOwned.run {op : StoreOp F} (h : RowsOwned cfg.scheme table)
    (hon : op.On cfg.scheme m) :
    RowsOwned cfg.scheme (op.run cfg table).2 := by
  rcases op with (⟨minionId, anomalies, now⟩ | ⟨f, payload, now, startsAt⟩ |
    ⟨f, now⟩) | ⟨f, startsAt⟩
  · obtain ⟨rfl, hcarries⟩ := hon
    exact h.reconcile hcarries now
  · exact h.mapValues minionId_markEmitted
  · exact h.mapValues minionId_markResolved
  · exact h

end Run

/-! ## Any interleaving -/

theorem rowsOwned_storeAfter {past : List (StoreCall F)}
    (hcarries : ∀ call ∈ past, call.CarriesMinion) :
    RowsOwned cfg.scheme (storeAfter cfg past) := by
  induction past with
  | nil =>
      intro f row hrow
      cases hrow
  | cons call past ih =>
      have hpast := ih fun call' hcall' =>
        hcarries call' (List.mem_cons_of_mem call hcall')
      have hcall := hcarries call List.mem_cons_self
      rcases call with ⟨m, anomalies, now⟩ | _ | _
      · exact hpast.reconcile hcall now
      · exact hpast.mapValues minionId_markEmitted
      · exact hpast.mapValues minionId_markResolved

/-- The calls of one minion, run from a table with the same rows of it, return
the same and leave the same rows behind, whatever the other minions do in
between. -/
theorem runAll_filter {calls : List (String × StoreOp F)}
    (hon : ∀ call ∈ calls, call.2.On cfg.scheme call.1) {m : String}
    {table table' : Table F} (h : RowsOwned cfg.scheme table)
    (h' : RowsOwned cfg.scheme table')
    (hrows : rowsOf m table = rowsOf m table') :
    ((runAll cfg calls table).1.filter fun result => result.1 = m) =
        (runAll cfg (calls.filter fun call => call.1 = m) table').1 ∧
      rowsOf m (runAll cfg calls table).2 = rowsOf m
        (runAll cfg (calls.filter fun call => call.1 = m) table').2 := by
  induction calls generalizing table table' with
  | nil => exact ⟨rfl, hrows⟩
  | cons call rest ih =>
      obtain ⟨m', op⟩ := call
      have hcall : op.On cfg.scheme m' := hon (m', op) List.mem_cons_self
      have hrest : ∀ call ∈ rest, call.2.On cfg.scheme call.1 := by
        intro call hmem
        exact hon call (List.mem_cons_of_mem _ hmem)
      by_cases hm : m' = m
      · subst hm
        have hsame := run_rowsOf h hcall
        rw [hrows, run_rowsOf h' hcall] at hsame
        obtain ⟨hresult, hafter⟩ := Prod.mk.inj hsame
        obtain ⟨hresults, hfinal⟩ :=
          ih hrest (h.run hcall) (h'.run hcall) hafter.symm
        simp only [runAll, List.filter_cons, decide_true, if_true]
        exact ⟨by rw [hresults, hresult], hfinal⟩
      · have hafter : rowsOf m (op.run cfg table).2 = rowsOf m table' :=
          (run_rowsOf_of_foreign h hcall hm).trans hrows
        obtain ⟨hresults, hfinal⟩ := ih hrest (h.run hcall) h' hafter
        simp only [runAll, List.filter_cons, hm, decide_false,
          Bool.false_eq_true, if_false]
        exact ⟨hresults, hfinal⟩

/-- However the calls of the minions are interleaved, each minion gets the
results and ends with the rows of its own calls run alone. -/
theorem minions_do_not_interfere
    (cfg : StoreSettings F) (past : List (StoreCall F))
    (hcarries : ∀ call ∈ past, call.CarriesMinion)
    (calls : List (String × StoreOp F))
    (hon : ∀ call ∈ calls, call.2.On cfg.scheme call.1) (m : String) :
    let table := storeAfter cfg past
    let own := calls.filter fun call => call.1 = m
    ((runAll cfg calls table).1.filter fun result => result.1 = m) =
        (runAll cfg own table).1 ∧
      rowsOf m (runAll cfg calls table).2 =
        rowsOf m (runAll cfg own table).2 := by
  have howned : RowsOwned cfg.scheme (storeAfter cfg past) :=
    rowsOwned_storeAfter hcarries
  exact runAll_filter hon howned howned rfl

/-- The same unit fails on two minions, and recovers on one of them. -/
def failedTwice : List (String × StoreOp IdentityKey) :=
  [("web", .change (.reconcile "web" [failedUnit] 0)),
    ("db", .change (.reconcile "db" [{ failedUnit with minionId := "db" }] 0)),
    ("web", .change (.markResolved failedUnit.identityKey 30)),
    ("db", .isActionable { failedUnit.identityKey with minionId := "db" }
      (rfc3339 0))]

theorem minions_do_not_interfere_failedTwice :
    let own := failedTwice.filter fun call => call.1 = "db"
    ("db", StoreResult.answer true) ∈ (runAll .plain own OrderedDict.empty).1 ∧
      ((runAll .plain failedTwice OrderedDict.empty).1.filter
          fun result => result.1 = "db") =
        (runAll .plain own OrderedDict.empty).1 := by
  have hon : ∀ call ∈ failedTwice,
      call.2.On (StoreSettings.plain).scheme call.1 := by
    intro call hcall
    simp only [failedTwice, List.mem_cons, List.not_mem_nil, or_false] at hcall
    rcases hcall with rfl | rfl | rfl | rfl
    · exact ⟨rfl, by simp [failedUnit]⟩
    · exact ⟨rfl, by simp⟩
    · exact ⟨_, rfl, rfl⟩
    · exact ⟨_, rfl, rfl⟩
  intro own
  exact ⟨by decide +kernel,
    (minions_do_not_interfere .plain [] (by simp) failedTwice hon "db").1⟩

end UyuniAgent.Incident
