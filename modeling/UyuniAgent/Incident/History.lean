import UyuniAgent.Incident.Reconcile

/-!
# The store as a function of its call history

What `IncidentStore` is for, stated without a table: for each incident
identity, the functions below read off the calls made so far whether a
generation is open, since when, what was last delivered for it, and for how
many cycles of its minion it has gone unobserved.  The table of the
implementation is shown to say the same, and `reconcile` to return what the
history calls for.

Histories are listed latest call first.
-/

namespace UyuniAgent.Incident

variable {F : Type} [DecidableEq F]

/-- The calls that change the store. -/
inductive StoreCall (F : Type)
  | reconcile (minionId : String) (anomalies : List Anomaly) (now : ℚ)
  | markEmitted (fingerprint : F) (payload : AlertPayload F) (now : ℚ)
      (startsAt : Option Rfc3339)
  | markResolved (fingerprint : F) (now : ℚ)

def StoreCall.apply (cfg : StoreSettings F) (call : StoreCall F)
    (table : Table F) : Table F :=
  match call with
  | .reconcile minionId anomalies now =>
      (Incident.reconcile cfg table minionId anomalies now).2
  | .markEmitted fingerprint payload now startsAt =>
      Incident.markEmitted table fingerprint payload now startsAt
  | .markResolved fingerprint now =>
      Incident.markResolved table fingerprint now

/-- The table after a history that starts from an empty database. -/
def storeAfter (cfg : StoreSettings F) (past : List (StoreCall F)) : Table F :=
  past.foldr (StoreCall.apply cfg) OrderedDict.empty

/-- The anomalies given to `reconcile(m, ...)` carry minion `m`. -/
def StoreCall.CarriesMinion : StoreCall F → Prop
  | .reconcile minionId anomalies _ => ∀ a ∈ anomalies, a.minionId = minionId
  | _ => True

/-! ## What a history says about one identity -/

/-- The first of the most severe anomalies with identity `k`. -/
def mostSevere (anomalies : List Anomaly) (k : IdentityKey) : Option Anomaly :=
  firstMostSevere (anomalies.filter fun anomaly => anomaly.identityKey = k)

/-- The opening time of the open generation of `k`, if there is one. -/
def openedAt (scheme : FingerprintScheme F) (k : IdentityKey) :
    List (StoreCall F) → Option ℚ
  | [] => none
  | .reconcile _ anomalies now :: past =>
      if (mostSevere anomalies k).isSome then
        some ((openedAt scheme k past).getD now)
      else openedAt scheme k past
  | .markEmitted .. :: past => openedAt scheme k past
  | .markResolved fingerprint _ :: past =>
      if fingerprint = scheme.digest k then none else openedAt scheme k past

/-- The severity and the time of the last observation of `k`. -/
def lastObservation (k : IdentityKey) :
    List (StoreCall F) → Option (AlertSeverity × ℚ)
  | [] => none
  | .reconcile _ anomalies now :: past =>
      match mostSevere anomalies k with
      | some anomaly => some (anomaly.severity, now)
      | none => lastObservation k past
  | _ :: past => lastObservation k past

/-- The cycles of its minion for which `k` has gone unobserved. -/
def unobservedCycles (k : IdentityKey) : List (StoreCall F) → ℕ
  | [] => 0
  | .reconcile minionId anomalies _ :: past =>
      if (mostSevere anomalies k).isSome then 0
      else if minionId = k.minionId then unobservedCycles k past + 1
      else unobservedCycles k past
  | _ :: past => unobservedCycles k past

structure Emission (F : Type) where
  emittedAt : ℚ
  severity : String
  payload : AlertPayload F

/-- A `mark_emitted` is effective when its generation is the open one: it may
name the generation by its start, or name none. -/
def Effective (opened? : Option ℚ) (startsAt : Option Rfc3339) : Prop :=
  ∃ opened, opened? = some opened ∧ ∀ s ∈ startsAt, rfc3339 opened = s

instance (opened? : Option ℚ) (startsAt : Option Rfc3339) :
    Decidable (Effective opened? startsAt) :=
  match opened? with
  | none => isFalse (by rintro ⟨_, h, -⟩; cases h)
  | some opened =>
      decidable_of_iff (∀ s ∈ startsAt, rfc3339 opened = s)
        ⟨fun h => ⟨opened, rfl, h⟩, fun ⟨_, h, hs⟩ => by cases h; exact hs⟩

/-- The last effective emission of the open generation of `k`.  A payload
without a severity label counts as delivered at the last observed severity. -/
def lastEmission (scheme : FingerprintScheme F) (k : IdentityKey) :
    List (StoreCall F) → Option (Emission F)
  | [] => none
  | .reconcile .. :: past =>
      if openedAt scheme k past = none then none
      else lastEmission scheme k past
  | .markEmitted fingerprint payload now startsAt :: past =>
      if fingerprint = scheme.digest k ∧
          Effective (openedAt scheme k past) startsAt then
        let delivered := lower payload.labels.severity
        some ⟨now,
          if delivered = "" then
            (lastObservation k past).elim "" fun observed => observed.1.value
          else delivered,
          payload⟩
      else lastEmission scheme k past
  | .markResolved fingerprint _ :: past =>
      if fingerprint = scheme.digest k then none
      else lastEmission scheme k past

/-! ## What the next reconciliation returns -/

/-- An observed identity needs a notification: it has no open generation, its
generation was never emitted, the cooldown has elapsed, or it escalated. -/
def NeedsNotification (cfg : StoreSettings F) (past : List (StoreCall F))
    (k : IdentityKey) (severity : AlertSeverity) (now : ℚ) : Prop :=
  openedAt cfg.scheme k past = none ∨
    lastEmission cfg.scheme k past = none ∨
    ∃ emission, lastEmission cfg.scheme k past = some emission ∧
      ((cfg.cooldownSeconds : ℚ) ≤ now - emission.emittedAt ∨
        severityRank emission.severity < severityRank severity.value)

/-- `incident` is the notification work for `k`. -/
def HistoryFires (cfg : StoreSettings F) (past : List (StoreCall F))
    (anomalies : List Anomaly) (now : ℚ) (k : IdentityKey)
    (incident : FiringIncident F) : Prop :=
  ∃ anomaly, mostSevere anomalies k = some anomaly ∧
    NeedsNotification cfg past k anomaly.severity now ∧
    incident = {
      anomaly := anomaly
      fingerprint := cfg.scheme.digest k
      startsAt := rfc3339 ((openedAt cfg.scheme k past).getD now)
      previousPayload := (lastEmission cfg.scheme k past).map (·.payload) }

/-- `record` resolves `k`, an identity of the reconciled minion. -/
def HistoryResolves (cfg : StoreSettings F) (past : List (StoreCall F))
    (minionId : String) (anomalies : List Anomaly) (k : IdentityKey)
    (record : IncidentRecord F) : Prop :=
  k.minionId = minionId ∧ mostSevere anomalies k = none ∧
    cfg.resolveAfterHealthyCycles ≤ unobservedCycles k past + 1 ∧
    ∃ opened severity observed,
      openedAt cfg.scheme k past = some opened ∧
      lastObservation k past = some (severity, observed) ∧
      record = {
        fingerprint := cfg.scheme.digest k
        minionId := k.minionId
        metricName := k.metricName
        serviceName := k.serviceName
        resource := k.resource
        severity := severity.value
        startsAt := rfc3339 opened
        firstSeen := opened
        lastSeen := observed
        lastEmitted := (lastEmission cfg.scheme k past).map (·.emittedAt)
        consecutiveAbsent := unobservedCycles k past + 1
        payload := (lastEmission cfg.scheme k past).map (·.payload) }


/-! ## The simulation relation -/

/-- The row of an identity whose generation was opened at `opened`. -/
def openRow (scheme : FingerprintScheme F) (past : List (StoreCall F))
    (k : IdentityKey) (opened : ℚ) : Row F where
  minionId := k.minionId
  metricName := k.metricName
  serviceName := k.serviceName
  resource := k.resource
  severity := (lastObservation k past).elim "" fun observed => observed.1.value
  lastEmittedSeverity := (lastEmission scheme k past).map (·.severity)
  status := .active
  firstSeen := opened
  lastSeen := (lastObservation k past).elim 0 Prod.snd
  lastEmitted := (lastEmission scheme k past).map (·.emittedAt)
  consecutiveAbsent := unobservedCycles k past
  startsAt := rfc3339 opened
  payloadJson := (lastEmission scheme k past).map (·.payload)
  resolvedAt := none

/-- The row of `k` says what the history says. -/
structure Tracks (scheme : FingerprintScheme F) (past : List (StoreCall F))
    (k : IdentityKey) (row? : Option (Row F)) : Prop where
  open_row : ∀ opened, openedAt scheme k past = some opened →
    row? = some (openRow scheme past k opened)
  closed_row : openedAt scheme k past = none →
    ∀ row, row? = some row → row.status = .resolved ∧ row.identityKey = k
  observed : ∀ opened, openedAt scheme k past = some opened →
    ∃ severity seen, lastObservation k past = some (severity, seen)
  unemitted : openedAt scheme k past = none → lastEmission scheme k past = none

theorem preferMoreSevere_get?_digest
    (cfg : StoreSettings F) (anomalies : List Anomaly) (k : IdentityKey) :
    (preferMoreSevere cfg anomalies).get? (cfg.scheme.digest k) =
      mostSevere anomalies k := by
  rw [preferMoreSevere_get?, mostSevere, observationsOf]
  congr 1
  refine List.filter_congr fun anomaly _ => ?_
  rw [FingerprintScheme.incidentFingerprint, decide_eq_decide]
  exact cfg.scheme.digest_injective.eq_iff

theorem identityKey_of_mostSevere
    {anomalies : List Anomaly} {k : IdentityKey} {anomaly : Anomaly}
    (h : mostSevere anomalies k = some anomaly) :
    anomaly ∈ anomalies ∧ anomaly.identityKey = k := by
  obtain ⟨hmem, -⟩ := firstMostSevere_spec h
  simpa using hmem

/-- An identity observed in a reconciliation belongs to its minion. -/
theorem minionId_of_mostSevere
    {minionId : String} {anomalies : List Anomaly} {k : IdentityKey}
    {anomaly : Anomaly}
    (hcarries : ∀ a ∈ anomalies, a.minionId = minionId)
    (h : mostSevere anomalies k = some anomaly) : k.minionId = minionId := by
  obtain ⟨hmem, rfl⟩ := identityKey_of_mostSevere h
  exact hcarries anomaly hmem

/-! ## A reconciliation keeps the simulation relation -/

section Reconcile

variable {scheme : FingerprintScheme F} {past : List (StoreCall F)}
  {k : IdentityKey} {minionId : String} {anomalies : List Anomaly} {now : ℚ}
  {anomaly : Anomaly}

theorem openedAt_of_observed
    (hsevere : mostSevere anomalies k = some anomaly) :
    openedAt scheme k (.reconcile minionId anomalies now :: past) =
      some ((openedAt scheme k past).getD now) := by
  simp [openedAt, hsevere]

theorem openedAt_of_unobserved (hsevere : mostSevere anomalies k = none) :
    openedAt scheme k (.reconcile minionId anomalies now :: past) =
      openedAt scheme k past := by
  simp [openedAt, hsevere]

omit [DecidableEq F] in
theorem lastObservation_of_unobserved
    (hsevere : mostSevere anomalies k = none) :
    lastObservation k
        (StoreCall.reconcile (F := F) minionId anomalies now :: past) =
      lastObservation k past := by
  simp [lastObservation, hsevere]

theorem openRow_of_first_observation
    (hsevere : mostSevere anomalies k = some anomaly)
    (hclosed : openedAt scheme k past = none) :
    openRow scheme (.reconcile minionId anomalies now :: past) k now =
      Row.opened anomaly.minionId anomaly now := by
  have hkey : k = anomaly.identityKey :=
    (identityKey_of_mostSevere hsevere).2.symm
  have hemission : lastEmission scheme k
      (.reconcile minionId anomalies now :: past) = none := by
    simp [lastEmission, hclosed]
  have hobserved : lastObservation k
      (StoreCall.reconcile (F := F) minionId anomalies now :: past) =
        some (anomaly.severity, now) := by
    simp [lastObservation, hsevere]
  have hcycles : unobservedCycles k
      (StoreCall.reconcile (F := F) minionId anomalies now :: past) = 0 := by
    simp [unobservedCycles, hsevere]
  rw [openRow, hemission, hobserved, hcycles, hkey]
  rfl

theorem openRow_of_observed {opened : ℚ}
    (hsevere : mostSevere anomalies k = some anomaly)
    (hopen : openedAt scheme k past = some opened) :
    openRow scheme (.reconcile minionId anomalies now :: past) k opened =
      (openRow scheme past k opened).observed anomaly now := by
  simp [openRow, Row.observed, lastObservation, lastEmission,
    unobservedCycles, hsevere, hopen]

theorem openRow_of_unobserved {opened : ℚ}
    (hsevere : mostSevere anomalies k = none)
    (hopen : openedAt scheme k past = some opened) :
    openRow scheme (.reconcile minionId anomalies now :: past) k opened =
      if minionId = k.minionId then
        { openRow scheme past k opened with
          consecutiveAbsent := unobservedCycles k past + 1 }
      else openRow scheme past k opened := by
  by_cases hminion : minionId = k.minionId
  · simp [openRow, lastObservation, lastEmission, unobservedCycles, hsevere,
      hopen, hminion]
  · simp [openRow, lastObservation, lastEmission, unobservedCycles, hsevere,
      hopen, hminion]

theorem Tracks.of_observed {row? : Option (Row F)}
    (htracks : Tracks scheme past k row?)
    (hsevere : mostSevere anomalies k = some anomaly)
    (hminion : k.minionId = minionId) :
    Tracks scheme (.reconcile minionId anomalies now :: past) k
      (reconciledRow minionId now (some anomaly) row?) := by
  have hkey : anomaly.identityKey = k := (identityKey_of_mostSevere hsevere).2
  have hminion' : anomaly.minionId = minionId := by
    rw [← hminion, ← hkey]
    rfl
  refine ⟨?_, ?_, ?_, ?_⟩
  · intro opened hopened
    rw [openedAt_of_observed hsevere, Option.some.injEq] at hopened
    cases hbefore : openedAt scheme k past with
    | some opened' =>
        obtain rfl : opened' = opened := by simpa [hbefore] using hopened
        rw [openRow_of_observed hsevere hbefore,
          htracks.open_row opened' hbefore]
        simp [reconciledRow, Row.activeFor, openRow, hminion]
    | none =>
        obtain rfl : now = opened := by simpa [hbefore] using hopened
        rw [openRow_of_first_observation hsevere hbefore, hminion']
        cases row? with
        | none => rfl
        | some row =>
            obtain ⟨hstatus, hrowKey⟩ := htracks.closed_row hbefore row rfl
            have hreopened : row.reopened anomaly now =
                Row.opened anomaly.minionId anomaly now :=
              Row.reopened_eq_opened (hrowKey.trans hkey.symm)
            simp [reconciledRow, Row.activeFor, hstatus, hreopened, hminion']
  · intro hclosed
    simp [openedAt_of_observed hsevere] at hclosed
  · intro _ _
    exact ⟨anomaly.severity, now, by simp [lastObservation, hsevere]⟩
  · intro hclosed
    simp [openedAt_of_observed hsevere] at hclosed

theorem Tracks.of_unobserved {row? : Option (Row F)}
    (htracks : Tracks scheme past k row?)
    (hsevere : mostSevere anomalies k = none) :
    Tracks scheme (.reconcile minionId anomalies now :: past) k
      (reconciledRow minionId now none row?) := by
  refine ⟨?_, ?_, ?_, ?_⟩
  · intro opened hopen
    rw [openedAt_of_unobserved hsevere] at hopen
    rw [openRow_of_unobserved hsevere hopen, htracks.open_row opened hopen]
    by_cases hminion : minionId = k.minionId
    · simp [reconciledRow, Row.activeFor, openRow, hminion]
    · simp [reconciledRow, Row.activeFor, openRow, hminion, Ne.symm hminion]
  · intro hclosed row hrow
    rw [openedAt_of_unobserved hsevere] at hclosed
    cases row? with
    | none => simp [reconciledRow] at hrow
    | some row' =>
        obtain ⟨hstatus, hkey⟩ := htracks.closed_row hclosed row' rfl
        obtain rfl : row' = row := by
          simpa [reconciledRow, Row.activeFor, hstatus] using hrow
        exact ⟨hstatus, hkey⟩
  · intro opened hopen
    rw [openedAt_of_unobserved hsevere] at hopen
    rw [lastObservation_of_unobserved hsevere]
    exact htracks.observed opened hopen
  · intro hclosed
    rw [openedAt_of_unobserved hsevere] at hclosed
    simp [lastEmission, hclosed]

end Reconcile

/-! ## The two acknowledgements keep it too -/

section Acknowledge

variable {scheme : FingerprintScheme F} {past : List (StoreCall F)}
  {k : IdentityKey} {table : Table F} {now : ℚ}

theorem effective_iff {opened : ℚ} {startsAt : Option Rfc3339} :
    Effective (some opened) startsAt ↔ ∀ s ∈ startsAt, rfc3339 opened = s := by
  constructor
  · rintro ⟨opened', hopened, hs⟩
    obtain rfl : opened = opened' := Option.some.inj hopened
    exact hs
  · intro hs
    exact ⟨opened, rfl, hs⟩

theorem openRow_markEmitted
    {fingerprint : F} {payload : AlertPayload F} {startsAt : Option Rfc3339}
    {opened : ℚ} (hopen : openedAt scheme k past = some opened) :
    openRow scheme (.markEmitted fingerprint payload now startsAt :: past) k
        opened =
      if fingerprint = scheme.digest k ∧
          (∀ s ∈ startsAt, rfc3339 opened = s) then
        (openRow scheme past k opened).emitted payload now
      else openRow scheme past k opened := by
  by_cases heffective : fingerprint = scheme.digest k ∧
      ∀ s ∈ startsAt, rfc3339 opened = s
  · rw [if_pos heffective]
    simp only [openRow, Row.emitted, lastEmission, hopen, effective_iff,
      if_pos heffective]
    rfl
  · rw [if_neg heffective]
    simp only [openRow, lastEmission, hopen, effective_iff,
      if_neg heffective]
    rfl

theorem Tracks.markEmitted
    {fingerprint : F} {payload : AlertPayload F} {startsAt : Option Rfc3339}
    (htracks : Tracks scheme past k (table.get? (scheme.digest k))) :
    Tracks scheme (.markEmitted fingerprint payload now startsAt :: past) k
      ((Incident.markEmitted table fingerprint payload now startsAt).get?
        (scheme.digest k)) := by
  rw [Incident.markEmitted, OrderedDict.get?_mapValues]
  refine ⟨?_, ?_, ?_, ?_⟩
  · intro opened hopen
    replace hopen : openedAt scheme k past = some opened := hopen
    rw [htracks.open_row opened hopen]
    rw [Option.map_some, openRow_markEmitted hopen]
    by_cases hmine : scheme.digest k = fingerprint
    · simp [openRow, hmine]
    · simp [hmine, Ne.symm hmine]
  · intro hclosed row hrow
    replace hclosed : openedAt scheme k past = none := hclosed
    obtain ⟨row', hrow', rfl⟩ := Option.map_eq_some_iff.mp hrow
    obtain ⟨hstatus, hkey⟩ := htracks.closed_row hclosed row' hrow'
    simpa [hstatus] using hkey
  · intro opened hopen
    exact htracks.observed opened hopen
  · intro hclosed
    replace hclosed : openedAt scheme k past = none := hclosed
    simp [lastEmission, Effective, hclosed, htracks.unemitted hclosed]

theorem Tracks.markResolved {fingerprint : F}
    (htracks : Tracks scheme past k (table.get? (scheme.digest k))) :
    Tracks scheme (.markResolved fingerprint now :: past) k
      ((Incident.markResolved table fingerprint now).get?
        (scheme.digest k)) := by
  rw [Incident.markResolved, OrderedDict.get?_mapValues]
  by_cases hmine : scheme.digest k = fingerprint
  · have hclosed : openedAt scheme k (.markResolved fingerprint now :: past) =
        none := by
      simp [openedAt, hmine]
    refine ⟨?_, ?_, ?_, ?_⟩
    · intro opened hopen
      rw [hclosed] at hopen
      cases hopen
    · intro _ row hrow
      obtain ⟨row', hrow', rfl⟩ := Option.map_eq_some_iff.mp hrow
      cases hbefore : openedAt scheme k past with
      | some opened =>
          rw [htracks.open_row opened hbefore, Option.some.injEq] at hrow'
          subst hrow'
          simp [openRow, Row.identityKey, hmine]
      | none =>
          obtain ⟨hstatus, hkey⟩ := htracks.closed_row hbefore row' hrow'
          simp [hstatus, hkey]
    · intro opened hopen
      rw [hclosed] at hopen
      cases hopen
    · intro _
      simp [lastEmission, hmine]
  · have hother : ∀ row? : Option (Row F), (row?.map fun row =>
        if scheme.digest k = fingerprint ∧ row.status = .active then
          { row with status := .resolved, resolvedAt := some now }
        else row) = row? := by
      intro row?
      simp [hmine]
    have hopened : openedAt scheme k (.markResolved fingerprint now :: past) =
        openedAt scheme k past := by
      simp [openedAt, Ne.symm hmine]
    have hemission :
        lastEmission scheme k (.markResolved fingerprint now :: past) =
          lastEmission scheme k past := by
      simp [lastEmission, Ne.symm hmine]
    rw [hother]
    refine ⟨?_, ?_, ?_, ?_⟩
    · intro opened hopen
      rw [hopened] at hopen
      rw [htracks.open_row opened hopen, openRow, openRow, hemission]
      rfl
    · intro hclosed
      exact htracks.closed_row (hopened ▸ hclosed)
    · intro opened hopen
      exact htracks.observed opened (hopened ▸ hopen)
    · intro hclosed
      rw [hemission]
      exact htracks.unemitted (hopened ▸ hclosed)

end Acknowledge

/-! ## The store refines its history -/

variable {cfg : StoreSettings F} {past : List (StoreCall F)}

theorem storeAfter_cons (call : StoreCall F) :
    storeAfter cfg (call :: past) = call.apply cfg (storeAfter cfg past) := rfl

/-- Every row of the table belongs to some identity. -/
theorem storeAfter_key
    {fingerprint : F} {row : Row F}
    (hrow : (storeAfter cfg past).get? fingerprint = some row) :
    ∃ k, cfg.scheme.digest k = fingerprint := by
  induction past generalizing row with
  | nil => simp [storeAfter] at hrow
  | cons call past ih =>
      rw [storeAfter_cons] at hrow
      cases hbefore : (storeAfter cfg past).get? fingerprint with
      | some row' => exact ih hbefore
      | none =>
          cases call with
          | reconcile minionId anomalies now =>
              rw [StoreCall.apply, reconcile_get?, hbefore] at hrow
              cases hselected :
                  (preferMoreSevere cfg anomalies).get? fingerprint with
              | none => simp [reconciledRow, hselected] at hrow
              | some anomaly =>
                  obtain ⟨-, hkey⟩ := mem_of_preferMoreSevere_get? hselected
                  exact ⟨anomaly.identityKey, hkey⟩
          | markEmitted _ _ _ _ =>
              simp [StoreCall.apply, Incident.markEmitted,
                OrderedDict.get?_mapValues, hbefore] at hrow
          | markResolved _ _ =>
              simp [StoreCall.apply, Incident.markResolved,
                OrderedDict.get?_mapValues, hbefore] at hrow

/-- The table after any history says what the history says. -/
theorem storeAfter_tracks
    (hcarries : ∀ call ∈ past, call.CarriesMinion) (k : IdentityKey) :
    Tracks cfg.scheme past k
      ((storeAfter cfg past).get? (cfg.scheme.digest k)) := by
  induction past with
  | nil =>
      constructor <;> simp [storeAfter, openedAt, lastEmission]
  | cons call past ih =>
      have hpast := ih fun call' hcall' =>
        hcarries call' (List.mem_cons_of_mem call hcall')
      have hcall := hcarries call List.mem_cons_self
      rw [storeAfter_cons]
      cases call with
      | reconcile minionId anomalies now =>
          rw [StoreCall.apply, reconcile_get?, preferMoreSevere_get?_digest]
          cases hsevere : mostSevere anomalies k with
          | some anomaly =>
              exact hpast.of_observed hsevere
                (minionId_of_mostSevere hcall hsevere)
          | none => exact hpast.of_unobserved hsevere
      | markEmitted fingerprint payload now startsAt => exact hpast.markEmitted
      | markResolved fingerprint now => exact hpast.markResolved

section Tracked

variable {scheme : FingerprintScheme F} {k : IdentityKey} {table : Table F}
  {minionId : String}

/-- The active row of an identity of the reconciled minion. -/
theorem Tracks.activeRow_eq
    (htracks : Tracks scheme past k (table.get? (scheme.digest k)))
    (hminion : k.minionId = minionId) :
    activeRow table minionId (scheme.digest k) =
      (openedAt scheme k past).map (openRow scheme past k) := by
  cases hopen : openedAt scheme k past with
  | some opened =>
      rw [Option.map_some, activeRow_eq_some_iff]
      exact ⟨htracks.open_row opened hopen, by
        simp [Row.activeFor, openRow, hminion]⟩
  | none =>
      rw [Option.map_none, Option.eq_none_iff_forall_ne_some]
      intro row hrow
      obtain ⟨hget, hactive⟩ := activeRow_eq_some_iff.mp hrow
      obtain ⟨hstatus, -⟩ := htracks.closed_row hopen row hget
      simp [Row.activeFor, hstatus] at hactive

/-- An active row belongs to an open identity of the reconciled minion. -/
theorem Tracks.of_activeRow {row : Row F}
    (htracks : Tracks scheme past k (table.get? (scheme.digest k)))
    (hrow : activeRow table minionId (scheme.digest k) = some row) :
    k.minionId = minionId ∧
      ∃ opened, openedAt scheme k past = some opened ∧
        row = openRow scheme past k opened := by
  obtain ⟨hget, hactive⟩ := activeRow_eq_some_iff.mp hrow
  cases hopen : openedAt scheme k past with
  | none =>
      obtain ⟨hstatus, -⟩ := htracks.closed_row hopen row hget
      simp [Row.activeFor, hstatus] at hactive
  | some opened =>
      obtain rfl : openRow scheme past k opened = row := by
        rw [htracks.open_row opened hopen] at hget
        exact Option.some.inj hget
      have hminion : k.minionId = minionId := by
        simp only [Row.activeFor, Bool.and_eq_true, decide_eq_true_eq] at hactive
        exact hactive.1
      exact ⟨hminion, opened, rfl, rfl⟩

end Tracked

theorem notifiable_openRow_iff
    {k : IdentityKey} {anomaly : Anomaly} {opened now : ℚ}
    (hopen : openedAt cfg.scheme k past = some opened) :
    (openRow cfg.scheme past k opened).notifiable cfg anomaly now = true ↔
      NeedsNotification cfg past k anomaly.severity now := by
  have hwasOpen : openedAt cfg.scheme k past ≠ none := by simp [hopen]
  cases hemission : lastEmission cfg.scheme k past with
  | none =>
      have hneeds : NeedsNotification cfg past k anomaly.severity now :=
        Or.inr (Or.inl hemission)
      simp [Row.notifiable, openRow, hemission, hneeds]
  | some emission =>
      have hneeds : NeedsNotification cfg past k anomaly.severity now ↔
          (cfg.cooldownSeconds : ℚ) ≤ now - emission.emittedAt ∨
            severityRank emission.severity <
              severityRank anomaly.severity.value := by
        simp [NeedsNotification, hwasOpen, hemission]
      rw [hneeds, or_comm]
      simp [Row.notifiable, openRow, hemission]

/-- The notification work the store derives from a tracked row is the work the
history calls for. -/
theorem firingFor_eq_some_iff
    {k : IdentityKey} {anomalies : List Anomaly} {anomaly : Anomaly} {now : ℚ}
    {incident : FiringIncident F}
    (hunemitted : openedAt cfg.scheme k past = none →
      lastEmission cfg.scheme k past = none)
    (hsevere : mostSevere anomalies k = some anomaly) :
    firingFor cfg now
        ((openedAt cfg.scheme k past).map (openRow cfg.scheme past k))
        (cfg.scheme.digest k) anomaly = some incident ↔
      HistoryFires cfg past anomalies now k incident := by
  have hfires : HistoryFires cfg past anomalies now k incident ↔
      NeedsNotification cfg past k anomaly.severity now ∧
        incident = ⟨anomaly, cfg.scheme.digest k,
          rfc3339 ((openedAt cfg.scheme k past).getD now),
          (lastEmission cfg.scheme k past).map (·.payload)⟩ := by
    simp [HistoryFires, hsevere]
  rw [hfires]
  cases hopen : openedAt cfg.scheme k past with
  | none =>
      have hneeds : NeedsNotification cfg past k anomaly.severity now :=
        Or.inl hopen
      rw [hunemitted hopen]
      simp [firingFor, hneeds, eq_comm]
  | some opened =>
      by_cases hneeds : NeedsNotification cfg past k anomaly.severity now
      · have hnotify := (notifiable_openRow_iff hopen).mpr hneeds
        simp only [Option.map_some, firingFor, if_pos hnotify,
          Option.some.injEq, and_iff_right hneeds]
        exact eq_comm
      · have hquiet : ¬(openRow cfg.scheme past k opened).notifiable cfg
            anomaly now = true := by
          rwa [notifiable_openRow_iff hopen]
        simp [firingFor, hquiet, hneeds]

/-- `reconcile` returns what the whole history of calls asks for, with one
entry for each incident. -/
theorem reconcile_refines_history
    (cfg : StoreSettings F) (past : List (StoreCall F)) (minionId : String)
    (anomalies : List Anomaly) (now : ℚ)
    (hcarries : ∀ call ∈ .reconcile minionId anomalies now :: past,
      call.CarriesMinion) :
    let changes :=
      (reconcile cfg (storeAfter cfg past) minionId anomalies now).1
    ((changes.firing.map (·.fingerprint)).Nodup ∧
      ∀ incident, incident ∈ changes.firing ↔
        ∃ k, HistoryFires cfg past anomalies now k incident) ∧
    ((changes.resolved.map (·.fingerprint)).Nodup ∧
      ∀ record, record ∈ changes.resolved ↔
        ∃ k, HistoryResolves cfg past minionId anomalies k record) := by
  have hcall : ∀ a ∈ anomalies, a.minionId = minionId :=
    hcarries _ List.mem_cons_self
  have htracks (k : IdentityKey) : Tracks cfg.scheme past k
      ((storeAfter cfg past).get? (cfg.scheme.digest k)) :=
    storeAfter_tracks
      (fun call hmem => hcarries call (List.mem_cons_of_mem _ hmem)) k
  refine ⟨⟨reconcile_firing_nodup .., fun incident => ?_⟩,
    ⟨reconcile_resolved_nodup .., fun record => ?_⟩⟩
  · rw [mem_reconcile_firing_iff]
    constructor
    · rintro ⟨fingerprint, anomaly, hselected, hfiring⟩
      obtain ⟨-, rfl⟩ := mem_of_preferMoreSevere_get? hselected
      have hsevere : mostSevere anomalies anomaly.identityKey = some anomaly :=
        (preferMoreSevere_get?_digest cfg anomalies _).symm.trans hselected
      refine ⟨anomaly.identityKey, ?_⟩
      rw [← firingFor_eq_some_iff (htracks _).unemitted hsevere,
        ← (htracks _).activeRow_eq (minionId_of_mostSevere hcall hsevere)]
      exact hfiring
    · rintro ⟨k, hfires⟩
      obtain ⟨anomaly, hsevere, -, -⟩ := id hfires
      refine ⟨cfg.scheme.digest k, anomaly, ?_, ?_⟩
      · rw [preferMoreSevere_get?_digest, hsevere]
      · rw [(htracks k).activeRow_eq (minionId_of_mostSevere hcall hsevere),
          firingFor_eq_some_iff (htracks k).unemitted hsevere]
        exact hfires
  · rw [mem_reconcile_resolved_iff]
    constructor
    · rintro ⟨fingerprint, row, hactive, hunobserved, habsent, rfl⟩
      obtain ⟨hget, -⟩ := activeRow_eq_some_iff.mp hactive
      obtain ⟨k, rfl⟩ := storeAfter_key hget
      obtain ⟨hminion, opened, hopen, rfl⟩ := (htracks k).of_activeRow hactive
      obtain ⟨severity, seen, hobserved⟩ := (htracks k).observed opened hopen
      refine ⟨k, hminion, ?_, habsent, opened, severity, seen, hopen,
        hobserved, ?_⟩
      · rw [← preferMoreSevere_get?_digest cfg, hunobserved]
      · simp [incidentRecord, openRow, hobserved]
    · rintro ⟨k, hminion, hunobserved, habsent, opened, severity, seen, hopen,
        hobserved, rfl⟩
      refine ⟨cfg.scheme.digest k, openRow cfg.scheme past k opened, ?_, ?_,
        habsent, ?_⟩
      · rw [(htracks k).activeRow_eq hminion, hopen]
        rfl
      · rw [preferMoreSevere_get?_digest, hunobserved]
      · simp [incidentRecord, openRow, hobserved]

/-- A failed unit is reported at 0, delivered at 5, and healthy at 60 and at
120: the second healthy cycle resolves what was opened at 0. -/
theorem reconcile_refines_history_failedUnit :
    let payload := buildAlertPayload openQuestion failedUnit
      failedUnit.identityKey (rfc3339 0)
    let past := [.reconcile "web" [] 60,
      .markEmitted failedUnit.identityKey payload 5 (some (rfc3339 0)),
      .reconcile "web" [failedUnit] 0]
    ∃ record ∈ (reconcile .plain (storeAfter .plain past) "web" [] 120).1.resolved,
      record.startsAt = rfc3339 0 ∧ record.payload = some payload := by
  intro payload past
  have hrefines := reconcile_refines_history .plain past "web" [] 120 (by
    intro call hcall
    simp only [past, List.mem_cons, List.not_mem_nil, or_false] at hcall
    rcases hcall with rfl | rfl | rfl | rfl <;>
      simp [StoreCall.CarriesMinion, failedUnit])
  exact ⟨_, (hrefines.2.2 _).mpr ⟨failedUnit.identityKey, by decide, by decide,
    by decide, 0, .critical, 0, by decide, by decide, rfl⟩, rfl, by decide +kernel⟩

end UyuniAgent.Incident
