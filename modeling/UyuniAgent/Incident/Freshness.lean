import Mathlib.Data.List.Chain
import UyuniAgent.Incident.Generation
import UyuniAgent.Incident.History

/-!
# Generations are told apart by their start

All generations of an incident share one row, and a late worker names the one
it means by `starts_at`, a text with whole seconds.  As long as the
reconciliations of a minion are a second apart, a reopened incident gets a text
that none of its earlier generations had, so nothing can be done in the name of
a generation that was resolved.

Histories are listed latest event first.
-/

namespace UyuniAgent.Incident

variable {F : Type} [DecidableEq F] {cfg : StoreSettings F}

/-- The process opens the database, or calls a method of the store. -/
inductive StoreEvent (F : Type)
  | restart
  | call (call : StoreCall F)

/-- The table of the database, once it was opened for the first time.
`CREATE TABLE IF NOT EXISTS` keeps a table that is there. -/
def databaseAfter (cfg : StoreSettings F) :
    List (StoreEvent F) → Option (Table F)
  | [] => none
  | .restart :: past =>
      some ((databaseAfter cfg past).getD OrderedDict.empty)
  | .call call :: past => (databaseAfter cfg past).map (call.apply cfg)

/-- The time of a `reconcile` call for the minion.  The poll loop gives a call
the anomalies of the minion that it names; a call with an anomaly of another
minion is one for that minion too. -/
def StoreEvent.reconciledAt (m : String) : StoreEvent F → Option ℚ
  | .call (.reconcile minionId anomalies now) =>
      if minionId = m ∨ ∃ a ∈ anomalies, a.minionId = m then some now else none
  | _ => none

def reconcileTimes (m : String) (past : List (StoreEvent F)) : List ℚ :=
  past.filterMap (StoreEvent.reconciledAt m)

/-- The observation times of successive `reconcile` calls for a minion grow by
at least one second. -/
def SecondsApart (past : List (StoreEvent F)) : Prop :=
  ∀ m, (reconcileTimes m past).IsChain fun later earlier => earlier + 1 ≤ later

/-- The generation of `f` that started at `startsAt` was marked resolved. -/
def GenerationResolved (cfg : StoreSettings F) (past : List (StoreEvent F))
    (f : F) (startsAt : Rfc3339) : Prop :=
  ∃ later now before table row,
    past = later ++ .call (.markResolved f now) :: before ∧
      databaseAfter cfg before = some table ∧ table.get? f = some row ∧
      row.status = .active ∧ row.startsAt = startsAt

/-! ## What one event does to a row -/

/-- The row of `f` after an event starts when it started before, and is as
open as it was, or it was opened by the event. -/
theorem row_after_event {event : StoreEvent F} {past : List (StoreEvent F)}
    {table : Table F} (htable : databaseAfter cfg (event :: past) = some table)
    {f : F} {row : Row F} (hrow : table.get? f = some row) :
    (∃ before row₀, databaseAfter cfg past = some before ∧
      before.get? f = some row₀ ∧ row.startsAt = row₀.startsAt ∧
      (row₀.status = .resolved → row.status = .resolved)) ∨
    ∃ k now, cfg.scheme.digest k = f ∧
      event.reconciledAt k.minionId = some now ∧
      row.startsAt = rfc3339 now := by
  rcases event with _ | call
  · obtain rfl := Option.some.inj htable
    rcases hbefore : databaseAfter cfg past with _ | before
    · rw [hbefore] at hrow
      cases hrow
    · rw [hbefore] at hrow
      exact Or.inl ⟨before, row, rfl, hrow, rfl, id⟩
  · obtain ⟨before, hbefore, rfl⟩ := Option.map_eq_some_iff.mp htable
    rcases call with ⟨m, anomalies, now⟩ | ⟨f', payload, now, startsAt⟩ |
      ⟨f', now⟩
    · rw [StoreCall.apply, reconcile_get?] at hrow
      rcases hobserved : (preferMoreSevere cfg anomalies).get? f with
        _ | anomaly
      · rw [hobserved] at hrow
        obtain ⟨row₀, hrow₀, ⟨-, rfl⟩ | ⟨-, rfl⟩⟩ := reconciledRow_missed hrow
        · exact Or.inl ⟨before, row₀, hbefore, hrow₀, rfl, id⟩
        · exact Or.inl ⟨before, row, hbefore, hrow₀, rfl, id⟩
      · obtain ⟨hmem, hkey⟩ := mem_of_preferMoreSevere_get? hobserved
        have hconcerned : (StoreEvent.call (F := F)
            (.reconcile m anomalies now)).reconciledAt
              anomaly.identityKey.minionId = some now :=
          if_pos (Or.inr ⟨anomaly, hmem, rfl⟩)
        rw [hobserved] at hrow
        obtain ⟨-, ⟨row₀, hrow₀, rfl⟩ | hopened⟩ := reconciledRow_observed hrow
        · exact Or.inl ⟨before, row₀, hbefore, hrow₀, rfl, id⟩
        · exact Or.inr ⟨anomaly.identityKey, now, hkey, hconcerned, hopened⟩
    · obtain ⟨row₀, hrow₀, -, hstatus, hstarts⟩ := markEmitted_get?_cases hrow
      exact Or.inl ⟨before, row₀, hbefore, hrow₀, hstarts,
        fun hresolved => hstatus.trans hresolved⟩
    · by_cases hf : f = f'
      · subst hf
        obtain ⟨hstatus, row₀, hrow₀, -, hstarts, -⟩ :=
          markResolved_get?_self hrow
        exact Or.inl ⟨before, row₀, hbefore, hrow₀, hstarts, fun _ => hstatus⟩
      · rw [StoreCall.apply, markResolved_get?_of_ne hf] at hrow
        exact Or.inl ⟨before, row, hbefore, hrow, rfl, id⟩

/-! ## Starts are fresh -/

omit [DecidableEq F] in
theorem SecondsApart.tail {event : StoreEvent F} {past : List (StoreEvent F)}
    (h : SecondsApart (event :: past)) : SecondsApart past := by
  intro m
  have hm := h m
  rcases hevent : event.reconciledAt m with _ | now
  · rwa [reconcileTimes, List.filterMap_cons_none hevent] at hm
  · rw [reconcileTimes, List.filterMap_cons_some hevent] at hm
    exact hm.tail

omit [DecidableEq F] in
/-- A reconciliation comes at least a second after all earlier ones for the
minion. -/
theorem SecondsApart.le {event : StoreEvent F} {past : List (StoreEvent F)}
    {m : String} {now : ℚ} (h : SecondsApart (event :: past))
    (hevent : event.reconciledAt m = some now) :
    ∀ t ∈ reconcileTimes m past, t + 1 ≤ now := by
  have hchain := h m
  rw [reconcileTimes, List.filterMap_cons_some hevent] at hchain
  have htrans : IsTrans ℚ fun later earlier => earlier + 1 ≤ later := by
    constructor
    intro a b c hab hbc
    linarith
  exact (List.pairwise_cons.mp (List.isChain_iff_pairwise.mp hchain)).1

/-- `startsAt` is the text of an earlier reconciliation that could open `f`. -/
def StartedIn (scheme : FingerprintScheme F) (past : List (StoreEvent F))
    (f : F) (startsAt : Rfc3339) : Prop :=
  ∃ k opened, scheme.digest k = f ∧ opened ∈ reconcileTimes k.minionId past ∧
    startsAt = rfc3339 opened

omit [DecidableEq F] in
theorem StartedIn.cons {scheme : FingerprintScheme F}
    {past : List (StoreEvent F)} {f : F} {startsAt : Rfc3339}
    (h : StartedIn scheme past f startsAt) (event : StoreEvent F) :
    StartedIn scheme (event :: past) f startsAt := by
  obtain ⟨k, opened, hk, hopened, hstarts⟩ := h
  refine ⟨k, opened, hk, ?_, hstarts⟩
  apply List.Sublist.subset _ hopened
  exact (List.sublist_cons_self event past).filterMap _

omit [DecidableEq F] in
/-- What an event opens has a start that was never used for the incident. -/
theorem StartedIn.ne_of_opened {scheme : FingerprintScheme F}
    {past : List (StoreEvent F)} {event : StoreEvent F} {f : F}
    {startsAt : Rfc3339} {k : IdentityKey} {now : ℚ}
    (h : StartedIn scheme past f startsAt)
    (hapart : SecondsApart (event :: past)) (hk : scheme.digest k = f)
    (hevent : event.reconciledAt k.minionId = some now) :
    rfc3339 now ≠ startsAt := by
  obtain ⟨k', opened, hk', hopened, rfl⟩ := h
  obtain rfl : k' = k := scheme.digest_injective (hk'.trans hk.symm)
  have hlt := rfc3339_second_lt (hapart.le hevent opened hopened)
  intro heq
  rw [heq] at hlt
  exact lt_irrefl _ hlt

/-- Every row started in a reconciliation. -/
theorem started_of_row {past : List (StoreEvent F)} {table : Table F}
    (htable : databaseAfter cfg past = some table) {f : F} {row : Row F}
    (hrow : table.get? f = some row) :
    StartedIn cfg.scheme past f row.startsAt := by
  induction past generalizing table row with
  | nil => cases htable
  | cons event past ih =>
      rcases row_after_event htable hrow with
        ⟨before, row₀, hbefore, hrow₀, hstarts, -⟩ |
        ⟨k, now, hk, hevent, hstarts⟩
      · rw [hstarts]
        exact (ih hbefore hrow₀).cons event
      · refine ⟨k, now, hk, ?_, hstarts⟩
        rw [reconcileTimes, List.filterMap_cons_some hevent]
        exact List.mem_cons_self

/-- Whatever row has the start of a resolved generation is resolved. -/
theorem row_of_resolved_generation {past : List (StoreEvent F)}
    (hapart : SecondsApart past) {f : F} {startsAt : Rfc3339}
    (hresolved : GenerationResolved cfg past f startsAt) :
    StartedIn cfg.scheme past f startsAt ∧
      ∀ table row, databaseAfter cfg past = some table →
        table.get? f = some row → row.startsAt = startsAt →
        row.status = .resolved := by
  obtain ⟨later, now, before, table₀, row₀, rfl, htable₀, hrow₀, -, rfl⟩ :=
    hresolved
  induction later with
  | nil =>
      refine ⟨(started_of_row htable₀ hrow₀).cons _, ?_⟩
      intro table row htable hrow _
      obtain ⟨before', -, rfl⟩ := Option.map_eq_some_iff.mp htable
      exact (markResolved_get?_self hrow).1
  | cons event later ih =>
      obtain ⟨hstarted, hclosed⟩ := ih hapart.tail
      refine ⟨hstarted.cons event, ?_⟩
      intro table row htable hrow hstarts
      rcases row_after_event htable hrow with
        ⟨before', row', hbefore', hrow', hsame, hkept⟩ |
        ⟨k, now', hk, hevent, hopened⟩
      · apply hkept
        exact hclosed before' row' hbefore' hrow' (hsame.symm.trans hstarts)
      · have hfresh := hstarted.ne_of_opened hapart hk hevent
        exact absurd (hopened.symm.trans hstarts) hfresh

/-- A generation that was marked resolved is not actionable any more, and no
late worker can mark it emitted, whatever happens to its incident later. -/
theorem resolved_generation_stays_resolved
    (cfg : StoreSettings F) (past : List (StoreEvent F))
    (hapart : SecondsApart past) {f : F} {startsAt : Rfc3339}
    (hresolved : GenerationResolved cfg past f startsAt) {table : Table F}
    (htable : databaseAfter cfg past = some table) :
    isActionable table f startsAt = false ∧
      ∀ payload now, markEmitted table f payload now (some startsAt) =
        table := by
  obtain ⟨-, hclosed⟩ := row_of_resolved_generation hapart hresolved
  constructor
  · rw [isActionable]
    rcases hrow : table.get? f with _ | row
    · rfl
    · by_cases hstarts : row.startsAt = startsAt
      · simp [hclosed table row htable hrow hstarts]
      · simp [hstarts]
  · intro payload now
    apply OrderedDict.mapValues_eq_self
    intro f' row hrow
    rw [if_neg]
    rintro ⟨rfl, hactive, hstarts⟩
    rw [hclosed table row htable hrow (hstarts startsAt rfl)] at hactive
    cases hactive

/-- A failed unit is reported, resolved, and reported again after a restart. -/
def recurrence : List (StoreEvent IdentityKey) :=
  [.call (.reconcile "web" [failedUnit] 2), .restart,
    .call (.markResolved failedUnit.identityKey 1),
    .call (.reconcile "web" [failedUnit] 0), .restart]

/-- The second generation is open, and the first one stays resolved. -/
theorem resolved_generation_stays_resolved_recurrence :
    ∃ table, databaseAfter .plain recurrence = some table ∧
      isActionable table failedUnit.identityKey (rfc3339 2) = true ∧
      isActionable table failedUnit.identityKey (rfc3339 0) = false := by
  have hapart : SecondsApart recurrence := by
    intro m
    by_cases hm : "web" = m
    · subst hm
      have htimes : reconcileTimes "web" recurrence = [2, 0] := by
        decide +kernel
      rw [htimes]
      norm_num
    · have htimes : reconcileTimes m recurrence = [] := by
        simp [reconcileTimes, recurrence, StoreEvent.reconciledAt, failedUnit,
          hm]
      rw [htimes]
      exact List.IsChain.nil
  have hopen : ((databaseAfter .plain [.call (.reconcile "web" [failedUnit] 0),
      .restart]).bind fun table => table.get? failedUnit.identityKey).any
        fun row => row.status = .active ∧ row.startsAt = rfc3339 0 := by
    decide +kernel
  obtain ⟨row, hrow, hfirst⟩ := (Option.any_eq_true _ _).mp hopen
  obtain ⟨table₀, htable₀, hrow₀⟩ := Option.bind_eq_some_iff.mp hrow
  obtain ⟨hactive, hstarts⟩ := of_decide_eq_true hfirst
  have hresolved : GenerationResolved .plain recurrence failedUnit.identityKey
      (rfc3339 0) :=
    ⟨[.call (.reconcile "web" [failedUnit] 2), .restart], 1, _, table₀, row,
      rfl, htable₀, hrow₀, hactive, hstarts⟩
  have hreached : (databaseAfter .plain recurrence).any fun table =>
      isActionable table failedUnit.identityKey (rfc3339 2) := by
    decide +kernel
  obtain ⟨table, htable, hagain⟩ := (Option.any_eq_true _ _).mp hreached
  exact ⟨table, htable, hagain,
    (resolved_generation_stays_resolved .plain recurrence hapart hresolved
      htable).1⟩

end UyuniAgent.Incident
