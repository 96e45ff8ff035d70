import UyuniAgent.Agent.Orphans

/-!
# The store acknowledges what Alertmanager accepted

A POST counts as accepted when Alertmanager answered it with success.  Unless
the answer to a firing POST is still to be handled, the row of an incident
describes the last firing alert that was accepted for its generation, and only
handling such an answer ever changes that description.
-/

namespace UyuniAgent.Incident

/-- The three columns of a row that describe the delivered alert. -/
def Row.delivery {F : Type} (row : Row F) :
    Option (AlertPayload F) × Option ℚ × Option String :=
  (row.payloadJson, row.lastEmitted, row.lastEmittedSeverity)

end UyuniAgent.Incident

namespace UyuniAgent.Agent

open Incident Queue Transition

variable {F : Type} [DecidableEq F]

/-! ## The property -/

/-- The last firing alert accepted for a generation. -/
def lastFiringPost (posts : List (AcceptedPost F)) (f : F)
    (startsAt : Rfc3339) : Option (AcceptedPost F) :=
  posts.find? fun post =>
    post.payload.labels.incidentId = some f &&
      post.payload.startsAt = startsAt && post.payload.endsAt.isNone

/-- A row describes an accepted POST by its payload, by the time its answer was
handled and by its severity. -/
def Describes (row : Row F) : Option (AcceptedPost F) → Prop
  | none => row.delivery = (none, none, none)
  | some post => ∃ handledAt, post.handledAt = some handledAt ∧
      row.delivery =
        (some post.payload, some handledAt, some post.payload.labels.severity)

/-- Every row describes the last firing alert accepted for its generation,
unless a worker still has to handle the answer to a firing alert of the
incident. -/
def Acknowledges (s : AgentState F) : Prop :=
  ∀ f row, s.table.get? f = some row → (∀ payload, ¬Delivering s f payload) →
    Describes row (lastFiringPost s.alertmanager f row.startsAt)

/-- The worker of this step handles an accepted firing alert of the
incident. -/
def StoresDelivery (s : AgentState F) (e : AgentEvent) (f : F) : Prop :=
  ∃ n now job payload, e = .finishDelivery n now ∧
    s.workers.get? n = some job ∧ job.fingerprint = f ∧
    job.phase = .firingAnswered payload true

/-- A step changes what a row says about the delivered alert only by handling
an accepted firing alert of the incident, or by replacing a closed generation
with one that has no alert. -/
def ChangesOnlyByDelivery (cfg : AgentSettings F) (s : AgentState F)
    (e : AgentEvent) : Prop :=
  ∀ s' f row, agentStep cfg s e = some s' → s.table.get? f = some row →
    ∃ row', s'.table.get? f = some row' ∧
      (row'.delivery = row.delivery ∨ StoresDelivery s e f ∨
        (row.status = .resolved ∧ row'.status = .active ∧
          row'.delivery = (none, none, none)))

def AgentEvent.reconciliation : AgentEvent → Option (String × ℚ)
  | .reconcile minion now => some (minion, now)
  | _ => none

/-- The reconciliations of a minion are at least one second apart. -/
def ReconcilesApart (trace : List AgentEvent) : Prop :=
  (trace.filterMap AgentEvent.reconciliation).Pairwise fun r r' =>
    r.1 = r'.1 → r.2 + 1 ≤ r'.2 ∨ r'.2 + 1 ≤ r.2

instance (trace : List AgentEvent) : Decidable (ReconcilesApart trace) :=
  inferInstanceAs (Decidable (List.Pairwise _ _))

/-! ## The invariant -/

/-- Generations start when their minion is reconciled: those of the rows, and
those of the accepted firing alerts. -/
structure Dated (past : List AgentEvent) (s : AgentState F) : Prop where
  rows : ∀ f row, s.table.get? f = some row →
    ∃ t, .reconcile row.minionId t ∈ past ∧ row.startsAt = rfc3339 t
  posts : ∀ p ∈ s.alertmanager, ∀ f, p.payload.labels.incidentId = some f →
    p.payload.endsAt = none →
    ∃ row t, s.table.get? f = some row ∧ .reconcile row.minionId t ∈ past ∧
      p.payload.startsAt = rfc3339 t

/-- While a worker has an accepted firing alert to acknowledge, that alert is
the last one of the generation; otherwise the row describes the last one. -/
structure Acknowledging (s : AgentState F) : Prop where
  settled : Acknowledges s
  delivering : ∀ f row payload, s.table.get? f = some row →
    Delivering s f payload → ∃ post,
      lastFiringPost s.alertmanager f row.startsAt = some post ∧
        post.payload = payload ∧ post.handledAt = none

/-! ## Rows -/

omit [DecidableEq F] in
theorem Describes.of_delivery {row row' : Row F}
    {post? : Option (AcceptedPost F)} (h : Describes row post?)
    (hdelivery : row'.delivery = row.delivery) : Describes row' post? := by
  rcases post? with _ | post
  · exact hdelivery.trans h
  · obtain ⟨t, ht, hrow⟩ := h
    exact ⟨t, ht, hdelivery.trans hrow⟩

omit [DecidableEq F] in
theorem delivery_of_continues {row row' : Row F} (h : row.Continues row') :
    row'.delivery = row.delivery := by
  rw [Row.delivery, Row.delivery, h.payloadJson, h.lastEmitted,
    h.lastEmittedSeverity]

omit [DecidableEq F] in
/-- Storing an addressed alert describes it. -/
theorem delivery_emitted {f : F} {row : Row F} {payload : AlertPayload F}
    {now : ℚ} (h : AddressedTo f payload) :
    (row.emitted payload now).delivery =
      (some payload, some now, some payload.labels.severity) := by
  obtain ⟨level, hlevel⟩ := h.severity
  have hne : level.value ≠ "" := by
    rcases level with _ | _ | _ <;> decide
  simp [Row.delivery, Row.emitted, hlevel, hne]

/-! ## Alertmanager -/

section Alertmanager

variable {posts : List (AcceptedPost F)} {payload : AlertPayload F} {now : ℚ}
  {accepted : Bool} {f : F} {g : Rfc3339}

/-- A POST that is no firing alert of the generation does not show. -/
theorem lastFiringPost_post_of_ne
    (hother : ¬(payload.labels.incidentId = some f ∧ payload.startsAt = g ∧
      payload.endsAt = none)) :
    lastFiringPost (post accepted payload now posts) f g =
      lastFiringPost posts f g := by
  rcases accepted with _ | _
  · rfl
  · have hskip : (payload.labels.incidentId = some f &&
        payload.startsAt = g && payload.endsAt.isNone) = false := by
      by_contra hmatch
      rw [Bool.not_eq_false] at hmatch
      simp only [Bool.and_eq_true, decide_eq_true_eq,
        Option.isNone_iff_eq_none] at hmatch
      exact hother ⟨hmatch.1.1, hmatch.1.2, hmatch.2⟩
    rw [lastFiringPost, post, if_pos rfl, List.find?_cons_of_neg]
    · rfl
    · rw [hskip]
      exact Bool.false_ne_true

theorem lastFiringPost_post_resolution (hends : payload.endsAt.isSome) :
    lastFiringPost (post accepted payload now posts) f g =
      lastFiringPost posts f g := by
  refine lastFiringPost_post_of_ne fun hmatch => ?_
  rw [hmatch.2.2] at hends
  cases hends

theorem lastFiringPost_post_self (h : AddressedTo f payload) :
    lastFiringPost (post true payload now posts) f payload.startsAt =
      some ⟨payload, now, none⟩ := by
  simp [lastFiringPost, post, h.incidentId, h.endsAt]

/-- Handling an answer fills in the time of the incident's unhandled alerts. -/
theorem lastFiringPost_handle {f' : F} :
    lastFiringPost (handle f' now posts) f g =
      (lastFiringPost posts f g).map fun post =>
        if post.unhandledFor f' then { post with handledAt := some now }
        else post :=
  find?_handle (fun payload => payload.labels.incidentId = some f &&
    payload.startsAt = g && payload.endsAt.isNone) f'

theorem lastFiringPost_handle_of_ne {f' : F} (hne : f ≠ f') :
    lastFiringPost (handle f' now posts) f g = lastFiringPost posts f g := by
  rw [lastFiringPost_handle]
  rcases hlast : lastFiringPost posts f g with _ | p
  · rfl
  · have hmatch := List.find?_some hlast
    simp only [Bool.and_eq_true, decide_eq_true_eq] at hmatch
    have hskip : p.unhandledFor f' = false := by
      simp [AcceptedPost.unhandledFor, hmatch.1.1, hne]
    simp [hskip]

end Alertmanager

/-! ## Generations start in the past -/

/-- The same generation of an incident. -/
def SameGeneration (row row' : Row F) : Prop :=
  row'.minionId = row.minionId ∧ row'.startsAt = row.startsAt

/-- Every generation is still there, and no other. -/
def GenerationsKept (table table' : Table F) : Prop :=
  ∀ f, Option.Rel SameGeneration (table.get? f) (table'.get? f)

section Dated

variable {cfg : AgentSettings F} {s s' : AgentState F} {past : List AgentEvent}
  {table : Table F} {f : F} {now : ℚ}

theorem GenerationsKept.refl (table : Table F) :
    GenerationsKept table table := by
  intro f
  rcases table.get? f with _ | row
  · exact .none
  · exact .some ⟨rfl, rfl⟩

/-- Rows that are changed in place keep their generations. -/
theorem generationsKept_mapValues {g : F → Row F → Row F}
    (hg : ∀ f row, SameGeneration row (g f row)) :
    GenerationsKept table (table.mapValues g) := by
  intro f'
  rw [OrderedDict.get?_mapValues]
  rcases table.get? f' with _ | row
  · exact .none
  · exact .some (hg f' row)

theorem generationsKept_markResolved :
    GenerationsKept table (markResolved table f now) := by
  apply generationsKept_mapValues
  intro f' row
  split
  · exact ⟨rfl, rfl⟩
  · exact ⟨rfl, rfl⟩

theorem generationsKept_markEmitted {payload : AlertPayload F}
    {startsAt : Option Rfc3339} :
    GenerationsKept table (markEmitted table f payload now startsAt) := by
  apply generationsKept_mapValues
  intro f' row
  split
  · exact ⟨rfl, rfl⟩
  · exact ⟨rfl, rfl⟩

omit [DecidableEq F] in
theorem mem_of_mem_post {accepted : Bool} {posts : List (AcceptedPost F)}
    {resolution : AlertPayload F} (hends : resolution.endsAt.isSome)
    {p : AcceptedPost F} (hp : p ∈ post accepted resolution now posts)
    (hfiring : p.payload.endsAt = none) : p ∈ posts := by
  rcases accepted with _ | _
  · exact hp
  · rcases List.mem_cons.mp hp with rfl | hold
    · rw [hfiring] at hends
      cases hends
    · exact hold

theorem exists_of_mem_handle {posts : List (AcceptedPost F)}
    {p' : AcceptedPost F} (hp' : p' ∈ handle f now posts) :
    ∃ p ∈ posts, p.payload = p'.payload := by
  obtain ⟨p, hp, rfl⟩ := List.mem_map.mp hp'
  refine ⟨p, hp, ?_⟩
  split <;> rfl

theorem Dated.initial : Dated [] (AgentState.initial : AgentState F) := by
  constructor
  · intro f row hrow
    cases hrow
  · intro p hp
    cases hp

/-- What keeps the generations and accepts no other firing alert keeps the
dates. -/
theorem Dated.transport (h : Dated past s) {e : AgentEvent}
    (hkept : GenerationsKept s.table s'.table)
    (hpost : ∀ p' ∈ s'.alertmanager, p'.payload.endsAt = none →
      ∃ p ∈ s.alertmanager, p.payload = p'.payload) :
    Dated (past ++ [e]) s' := by
  constructor
  · intro f row' hrow'
    have hrel := hkept f
    rw [hrow'] at hrel
    rcases hrow : s.table.get? f with _ | row
    · rw [hrow] at hrel
      cases hrel
    · rw [hrow, Option.rel_some_some] at hrel
      obtain ⟨t, hpast, ht⟩ := h.rows f row hrow
      refine ⟨t, List.mem_append_left _ ?_, hrel.2.trans ht⟩
      rwa [hrel.1]
  · intro p' hp' f hid hends
    obtain ⟨p, hp, hpayload⟩ := hpost p' hp' hends
    rw [← hpayload] at hid hends ⊢
    obtain ⟨row, t, hrow, hpast, ht⟩ := h.posts p hp f hid hends
    have hrel := hkept f
    rw [hrow] at hrel
    rcases hrow' : s'.table.get? f with _ | row'
    · rw [hrow'] at hrel
      cases hrel
    · rw [hrow', Option.rel_some_some] at hrel
      refine ⟨row', t, rfl, List.mem_append_left _ ?_, ht⟩
      rwa [hrel.1]

theorem Dated.reconcile (h : Dated past s) {m : String}
    {anomalies : List Anomaly} (hkeyed : KeyedBy cfg.store.scheme s.table)
    (hcarries : ∀ a ∈ anomalies, a.minionId = m)
    {polls : OrderedDict String (PollPhase F)} :
    Dated (past ++ [.reconcile m now])
      { s with
        table := (Incident.reconcile cfg.store s.table m anomalies now).2
        polls := polls } := by
  have hcase := reconcile_row hkeyed hcarries now
  constructor
  · intro f row' hrow'
    have hf := hcase f
    rw [hrow'] at hf
    generalize hrow : s.table.get? f = row? at hf
    cases hf with
    | continues row _ hcontinues =>
        obtain ⟨t, hpast, ht⟩ := h.rows f row hrow
        refine ⟨t, List.mem_append_left _ ?_, hcontinues.startsAt.trans ht⟩
        rwa [hcontinues.minionId]
    | opened _ anomaly _ _ =>
        exact ⟨now, List.mem_append_right _ List.mem_cons_self, rfl⟩
  · intro p hp f hid hends
    obtain ⟨row, t, hrow, hpast, ht⟩ := h.posts p hp f hid hends
    have hf := hcase f
    rw [hrow] at hf
    generalize hrow' :
      (Incident.reconcile cfg.store s.table m anomalies now).2.get? f =
        row'? at hf
    cases hf with
    | continues _ row' hcontinues =>
        refine ⟨row', t, rfl, List.mem_append_left _ ?_, ht⟩
        rwa [hcontinues.minionId]
    | opened _ anomaly hobserved _ =>
        -- the reopened row belongs to the minion of the row before it
        obtain ⟨hminion, hkey⟩ :=
          row_minionId_of_observed hkeyed hcarries hrow hobserved
        refine ⟨_, t, rfl, List.mem_append_left _ ?_, ht⟩
        have hsame : row.minionId = m :=
          (congrArg IdentityKey.minionId hkey).trans hminion
        rwa [← hsame]

/-- An accepted firing alert dates from the generation its job was queued
for. -/
theorem Dated.acceptFiring (h : Dated past s) (hw : WellFormed cfg s) {n : ℕ}
    {job : Job F} {payload : AlertPayload F} {accepted : Bool}
    {e : AgentEvent} (hjob : s.workers.get? n = some job)
    (hsent : job.phase = .firingSent payload) :
    Dated (past ++ [e])
      { s.setJob n job (.firingAnswered payload accepted) with
        alertmanager := post accepted payload now s.alertmanager } := by
  have hphase := hw.addressed.phase n job hjob
  rw [hsent] at hphase
  obtain ⟨haddressed, hstarts⟩ := hphase
  obtain ⟨-, m, row, hrow, -, rfl, hgen⟩ := hw.coherent.job_open n job hjob
  obtain ⟨t, hpast, ht⟩ := h.rows job.fingerprint row hrow
  have hold : Dated (past ++ [e]) s := h.transport (GenerationsKept.refl _)
    fun p hp _ => ⟨p, hp, rfl⟩
  refine ⟨hold.rows, ?_⟩
  rcases accepted with _ | _
  · exact hold.posts
  · intro p hp f hid hends
    rcases List.mem_cons.mp hp with rfl | hmem
    · obtain rfl : job.fingerprint = f :=
        Option.some.inj (haddressed.incidentId.symm.trans hid)
      exact ⟨row, t, hrow, List.mem_append_left _ hpast,
        hstarts.trans (hgen.symm.trans ht)⟩
    · exact hold.posts p hmem f hid hends

theorem Dated.step (h : Dated past s) (hw : WellFormed cfg s) {e : AgentEvent}
    (hstep : agentStep cfg s e = some s') : Dated (past ++ [e]) s' := by
  have hsame : ∀ p ∈ s.alertmanager, p.payload.endsAt = none →
      ∃ p' ∈ s.alertmanager, p'.payload = p.payload :=
    fun p hp _ => ⟨p, hp, rfl⟩
  have hkept := GenerationsKept.refl s.table
  rcases e with ⟨minions, anomalies⟩ | ⟨m, now⟩ | ⟨m, now⟩ |
    ⟨m, accepted, now⟩ | ⟨m, now⟩ | ⟨m, now⟩ | m | n | ⟨n, now⟩ |
    ⟨n, result, now⟩ | ⟨n, accepted, now⟩ | n | ⟨n, now⟩ | n
  · obtain ⟨-, -, rfl⟩ := step_startCycle hstep
    exact h.transport hkept hsame
  · obtain ⟨anomalies, hpoll, rfl⟩ := step_reconcile hstep
    exact h.reconcile hw.coherent.keyed (hw.coherent.poll_open m _ hpoll)
  · obtain ⟨incident, resolved, firing, -, hcases⟩ := step_resolveNext hstep
    rcases hcases with ⟨-, rfl⟩ | ⟨-, -, rfl⟩ | ⟨-, payload, -, rfl⟩
    · exact h.transport hkept hsame
    · exact h.transport generationsKept_markResolved hsame
    · exact h.transport hkept hsame
  · obtain ⟨incident, resolution, resolved, firing, hpoll, rfl⟩ :=
      step_answerResolution hstep
    obtain ⟨-, payload, -, -, -, hends⟩ := hw.addressed.poll m _ hpoll
    exact h.transport hkept fun p hp hfiring =>
      ⟨p, mem_of_mem_post hends hp hfiring, rfl⟩
  · obtain ⟨incident, accepted, resolved, firing, -, rfl⟩ :=
      step_finishResolution hstep
    rcases accepted with _ | _
    · exact h.transport hkept hsame
    · exact h.transport generationsKept_markResolved hsame
  · obtain ⟨incident, firing, -, rfl⟩ := step_enqueueNext hstep
    exact h.transport hkept hsame
  · obtain ⟨-, rfl⟩ := step_finishMinion hstep
    exact h.transport hkept hsame
  · obtain ⟨-, item, queue, -, rfl⟩ := step_pop hstep
    exact h.transport hkept hsame
  · obtain ⟨job, -, -, rfl⟩ := step_begin hstep
    exact h.transport hkept hsame
  · obtain ⟨job, -, -, rfl⟩ := step_conclude hstep
    exact h.transport hkept hsame
  · obtain ⟨job, hjob, hcases⟩ := step_answerPost hstep
    rcases hcases with ⟨resolution, payload, hsent, rfl⟩ | ⟨payload, hsent, rfl⟩
    · have hphase := hw.addressed.phase n job hjob
      rw [hsent] at hphase
      obtain ⟨-, -, previous, -, -, -, hends⟩ := hphase
      exact h.transport hkept fun p hp hfiring =>
        ⟨p, mem_of_mem_post hends hp hfiring, rfl⟩
    · exact h.acceptFiring hw hjob hsent
  · obtain ⟨job, payload, accepted, -, -, rfl⟩ := step_finishTransition hstep
    exact h.transport hkept hsame
  · obtain ⟨job, payload, -, hcases⟩ := step_finishDelivery hstep
    rcases hcases with ⟨-, rfl⟩ | ⟨-, rfl⟩
    · exact h.transport generationsKept_markEmitted fun p hp _ =>
        exists_of_mem_handle hp
    · exact h.transport hkept hsame
  · obtain ⟨job, outcome, -, -, rfl⟩ := step_release hstep
    exact h.transport hkept hsame

end Dated

/-! ## Every step keeps the acknowledgement -/

section Acknowledging

variable {cfg : AgentSettings F} {s s' : AgentState F} {past : List AgentEvent}

/-- What a table says about the delivered alert of each generation. -/
def SameDeliveries (table table' : Table F) : Prop :=
  ∀ f row', table'.get? f = some row' → ∃ row, table.get? f = some row ∧
    row'.startsAt = row.startsAt ∧ row'.delivery = row.delivery

theorem SameDeliveries.refl (table : Table F) : SameDeliveries table table :=
  fun _ row' hrow' => ⟨row', hrow', rfl, rfl⟩

theorem sameDeliveries_markResolved {table : Table F} {f : F} {now : ℚ} :
    SameDeliveries table (markResolved table f now) := by
  intro f' row' hrow'
  by_cases hf : f' = f
  · subst hf
    obtain ⟨-, row, hrow, -, hstarts, hpayload, hemitted, hseverity⟩ :=
      markResolved_get?_self hrow'
    refine ⟨row, hrow, hstarts, ?_⟩
    rw [Row.delivery, Row.delivery, hpayload, hemitted, hseverity]
  · rw [markResolved_get?_of_ne hf] at hrow'
    exact ⟨row', hrow', rfl, rfl⟩

theorem Acknowledging.initial :
    Acknowledging (AgentState.initial : AgentState F) := by
  constructor
  · intro f row hrow
    cases hrow
  · intro f row payload hrow
    cases hrow

theorem Acknowledging.transport (h : Acknowledging s)
    (hrow : SameDeliveries s.table s'.table)
    (hlast : ∀ f g, lastFiringPost s'.alertmanager f g =
      lastFiringPost s.alertmanager f g)
    (hdelivering : ∀ f payload, Delivering s' f payload ↔
      Delivering s f payload) :
    Acknowledging s' := by
  constructor
  · intro f row' hrow' hnone
    obtain ⟨row, hbefore, hstarts, hdelivery⟩ := hrow f row' hrow'
    rw [hlast, hstarts]
    refine Describes.of_delivery (h.settled f row hbefore ?_) hdelivery
    intro payload hpayload
    exact hnone payload ((hdelivering f payload).mpr hpayload)
  · intro f row' payload hrow' hpayload
    obtain ⟨row, hbefore, hstarts, -⟩ := hrow f row' hrow'
    rw [hlast, hstarts]
    exact h.delivering f row payload hbefore
      ((hdelivering f payload).mp hpayload)

/-- A job under way keeps its incident from being opened again. -/
theorem not_delivering_of_closed (hc : Coherent cfg s) {f : F}
    (hclosed : ∀ row, s.table.get? f = some row → row.status = .resolved)
    (payload : AlertPayload F) : ¬Delivering s f payload := by
  rintro ⟨n, job, hjob, rfl, -⟩
  obtain ⟨-, m, row, hrow, hactive, -⟩ := hc.job_open n job hjob
  rw [hclosed row hrow] at hactive
  cases hactive

omit [DecidableEq F] in
theorem ReconcilesApart.of_prefix {trace : List AgentEvent}
    (h : ReconcilesApart trace) (hpast : past <+: trace) :
    ReconcilesApart past :=
  List.Pairwise.sublist (hpast.sublist.filterMap _) h

/-- Reconciliations a second apart give generations different names. -/
theorem rfc3339_ne_of_reconcilesApart {m : String} {t now : ℚ}
    (happart : ReconcilesApart (past ++ [.reconcile m now]))
    (hpast : .reconcile m t ∈ past) : rfc3339 t ≠ rfc3339 now := by
  rw [ReconcilesApart, List.filterMap_append] at happart
  have hbefore : (m, t) ∈ past.filterMap AgentEvent.reconciliation :=
    List.mem_filterMap.mpr ⟨_, hpast, rfl⟩
  have hpairs := (List.pairwise_append.mp happart).2.2 _ hbefore (m, now)
    List.mem_cons_self
  intro heq
  rcases hpairs rfl with hlt | hlt
  · have hsecond := rfc3339_second_lt hlt
    rw [heq] at hsecond
    exact lt_irrefl _ hsecond
  · have hsecond := rfc3339_second_lt hlt
    rw [heq] at hsecond
    exact lt_irrefl _ hsecond

/-- A generation that opens now has no accepted alert yet. -/
theorem lastFiringPost_of_opened (hdated : Dated past s) {m : String} {now : ℚ}
    (happart : ReconcilesApart (past ++ [.reconcile m now])) {f : F}
    (hmine : ∀ row, s.table.get? f = some row → row.minionId = m) :
    lastFiringPost s.alertmanager f (rfc3339 now) = none := by
  rw [lastFiringPost, List.find?_eq_none]
  intro p hp hmatch
  simp only [Bool.and_eq_true, decide_eq_true_eq,
    Option.isNone_iff_eq_none] at hmatch
  obtain ⟨⟨hid, hstarts⟩, hends⟩ := hmatch
  obtain ⟨row, t, hrow, hpast, ht⟩ := hdated.posts p hp f hid hends
  rw [hmine row hrow] at hpast
  exact rfc3339_ne_of_reconcilesApart happart hpast (ht.symm.trans hstarts)

theorem Acknowledging.reconcile (h : Acknowledging s) (hw : WellFormed cfg s)
    (hdated : Dated past s) {m : String} {now : ℚ} {anomalies : List Anomaly}
    (happart : ReconcilesApart (past ++ [.reconcile m now]))
    (hcarries : ∀ a ∈ anomalies, a.minionId = m)
    {polls : OrderedDict String (PollPhase F)} :
    Acknowledging { s with
      table := (Incident.reconcile cfg.store s.table m anomalies now).2
      polls := polls } := by
  have hkeyed := hw.coherent.keyed
  have hcase := reconcile_row hkeyed hcarries now
  constructor
  · intro f row' hrow' hnone
    have hf := hcase f
    rw [hrow'] at hf
    generalize hrow : s.table.get? f = row? at hf
    cases hf with
    | continues row _ hcontinues =>
        rw [hcontinues.startsAt]
        exact (h.settled f row hrow hnone).of_delivery
          (delivery_of_continues hcontinues)
    | opened _ anomaly hobserved _ =>
        have hmine : ∀ row, s.table.get? f = some row → row.minionId = m := by
          intro row hrow
          obtain ⟨hminion, hkey⟩ :=
            row_minionId_of_observed hkeyed hcarries hrow hobserved
          exact (congrArg IdentityKey.minionId hkey).trans hminion
        have hlast := lastFiringPost_of_opened hdated happart hmine
        rw [show (Row.opened (F := F) m anomaly now).startsAt = rfc3339 now
          from rfl, hlast]
        rfl
  · intro f row' payload hrow' hpayload
    have hf := hcase f
    rw [hrow'] at hf
    generalize hrow : s.table.get? f = row? at hf
    cases hf with
    | continues row _ hcontinues =>
        rw [hcontinues.startsAt]
        exact h.delivering f row payload hrow hpayload
    | opened _ anomaly _ hclosed =>
        exact absurd hpayload (not_delivering_of_closed hw.coherent
          (fun row hrow₀ => hclosed row (hrow.symm.trans hrow₀)) payload)

/-- An accepted firing alert is the last one of its generation. -/
theorem Acknowledging.acceptFiring (h : Acknowledging s)
    (hw : WellFormed cfg s) {n : ℕ} {job : Job F} {payload : AlertPayload F}
    {now : ℚ} (hjob : s.workers.get? n = some job)
    (hsent : job.phase = .firingSent payload) :
    Acknowledging
      { s.setJob n job (.firingAnswered payload true) with
        alertmanager := post true payload now s.alertmanager } := by
  have hphase := hw.addressed.phase n job hjob
  rw [hsent] at hphase
  obtain ⟨haddressed, hstarts⟩ := hphase
  have hother : ∀ f g, f ≠ job.fingerprint →
      lastFiringPost (post true payload now s.alertmanager) f g =
        lastFiringPost s.alertmanager f g := by
    intro f g hne
    refine lastFiringPost_post_of_ne fun hmatch => hne ?_
    exact Option.some.inj (hmatch.1.symm.trans haddressed.incidentId)
  constructor
  · intro f row hrow hnone
    by_cases hf : f = job.fingerprint
    · subst hf
      refine absurd ?_ (hnone payload)
      exact (delivering_setJob_self hw.coherent hjob _ payload).mpr rfl
    · rw [hother f _ hf]
      refine h.settled f row hrow fun p hp => hnone p ?_
      exact (delivering_setJob_of_ne hw.coherent hjob _ hf p).mpr hp
  · intro f row p hrow hp
    by_cases hf : f = job.fingerprint
    · subst hf
      have hp' := (delivering_setJob_self hw.coherent hjob _ p).mp hp
      obtain ⟨rfl, -⟩ := JobPhase.firingAnswered.inj hp'
      obtain ⟨-, m, row₀, hrow₀, -, -, hgen⟩ := hw.coherent.job_open n job hjob
      obtain rfl := Option.some.inj (hrow.symm.trans hrow₀)
      refine ⟨⟨payload, now, none⟩, ?_, rfl, rfl⟩
      rw [hgen, ← hstarts]
      exact lastFiringPost_post_self haddressed
    · rw [hother f _ hf]
      exact h.delivering f row p hrow
        ((delivering_setJob_of_ne hw.coherent hjob _ hf p).mp hp)

/-- Handling the answer makes the row describe the accepted alert. -/
theorem Acknowledging.store (h : Acknowledging s) (hw : WellFormed cfg s)
    {n : ℕ} {job : Job F} {payload : AlertPayload F} {now : ℚ}
    (hjob : s.workers.get? n = some job)
    (hanswered : job.phase = .firingAnswered payload true) :
    Acknowledging { s.setJob n job (.finished .delivered) with
      table := markEmitted s.table job.work.firing.fingerprint payload now
        (some job.work.firing.startsAt)
      alertmanager :=
        handle job.work.firing.fingerprint now s.alertmanager } := by
  obtain ⟨hkey, m, hopen⟩ := hw.coherent.job_open n job hjob
  rw [hkey]
  have hphase := hw.addressed.phase n job hjob
  rw [hanswered] at hphase
  obtain ⟨haddressed, hstarts⟩ := hphase
  constructor
  · intro f row hrow hnone
    by_cases hf : f = job.fingerprint
    · subst hf
      obtain ⟨row₀, hrow₀, -, -, hgen, hafter⟩ :=
        markEmitted_get?_self hopen payload now
      obtain rfl := Option.some.inj (hafter.symm.trans hrow)
      obtain ⟨post, hlast, rfl, hunhandled⟩ := h.delivering job.fingerprint row₀
        payload hrow₀ ⟨n, job, hjob, rfl, hanswered⟩
      have hwaiting : post.unhandledFor job.fingerprint = true := by
        simp [AcceptedPost.unhandledFor, haddressed.incidentId,
          haddressed.endsAt, hunhandled]
      rw [show (row₀.emitted post.payload now).startsAt = row₀.startsAt
        from rfl, lastFiringPost_handle, hlast, Option.map_some, if_pos hwaiting]
      exact ⟨now, rfl, delivery_emitted haddressed⟩
    · rw [markEmitted_get?_of_ne hf] at hrow
      rw [lastFiringPost_handle_of_ne hf]
      refine h.settled f row hrow fun p hp => hnone p ?_
      exact (delivering_setJob_of_ne hw.coherent hjob _ hf p).mpr hp
  · intro f row p hrow hp
    by_cases hf : f = job.fingerprint
    · subst hf
      cases (delivering_setJob_self hw.coherent hjob _ p).mp hp
    · rw [markEmitted_get?_of_ne hf] at hrow
      rw [lastFiringPost_handle_of_ne hf]
      exact h.delivering f row p hrow
        ((delivering_setJob_of_ne hw.coherent hjob _ hf p).mp hp)

theorem Acknowledging.step (h : Acknowledging s) (hw : WellFormed cfg s)
    (hdated : Dated past s) {e : AgentEvent}
    (happart : ReconcilesApart (past ++ [e]))
    (hstep : agentStep cfg s e = some s') : Acknowledging s' := by
  have hc := hw.coherent
  have hsame := SameDeliveries.refl s.table
  rcases e with ⟨minions, anomalies⟩ | ⟨m, now⟩ | ⟨m, now⟩ |
    ⟨m, accepted, now⟩ | ⟨m, now⟩ | ⟨m, now⟩ | m | n | ⟨n, now⟩ |
    ⟨n, result, now⟩ | ⟨n, accepted, now⟩ | n | ⟨n, now⟩ | n
  · obtain ⟨-, -, rfl⟩ := step_startCycle hstep
    exact h.transport hsame (fun _ _ => rfl) fun _ _ => Iff.rfl
  · obtain ⟨anomalies, hpoll, rfl⟩ := step_reconcile hstep
    exact h.reconcile hw hdated happart (hc.poll_open m _ hpoll)
  · obtain ⟨incident, resolved, firing, -, hcases⟩ := step_resolveNext hstep
    rcases hcases with ⟨-, rfl⟩ | ⟨-, -, rfl⟩ | ⟨-, payload, -, rfl⟩
    · exact h.transport hsame (fun _ _ => rfl) fun _ _ => Iff.rfl
    · exact h.transport sameDeliveries_markResolved (fun _ _ => rfl)
        fun _ _ => Iff.rfl
    · exact h.transport hsame (fun _ _ => rfl) fun _ _ => Iff.rfl
  · obtain ⟨incident, resolution, resolved, firing, hpoll, rfl⟩ :=
      step_answerResolution hstep
    obtain ⟨-, payload, -, -, -, hends⟩ := hw.addressed.poll m _ hpoll
    exact h.transport hsame (fun _ _ => lastFiringPost_post_resolution hends)
      fun _ _ => Iff.rfl
  · obtain ⟨incident, accepted, resolved, firing, -, rfl⟩ :=
      step_finishResolution hstep
    rcases accepted with _ | _
    · exact h.transport hsame (fun _ _ => rfl) fun _ _ => Iff.rfl
    · exact h.transport sameDeliveries_markResolved (fun _ _ => rfl)
        fun _ _ => Iff.rfl
  · obtain ⟨incident, firing, -, rfl⟩ := step_enqueueNext hstep
    exact h.transport hsame (fun _ _ => rfl) fun _ _ => Iff.rfl
  · obtain ⟨-, rfl⟩ := step_finishMinion hstep
    exact h.transport hsame (fun _ _ => rfl) fun _ _ => Iff.rfl
  · obtain ⟨hfree, item, queue, -, rfl⟩ := step_pop hstep
    exact h.transport hsame (fun _ _ => rfl) (delivering_pop_iff hfree rfl)
  · obtain ⟨job, hjob, hpopped, rfl⟩ := step_begin hstep
    exact h.transport hsame (fun _ _ => rfl) (delivering_setJob_of_silent hc
      hjob (by simp [hpopped]) begin_ne_firing)
  · obtain ⟨job, hjob, hinvestigating, rfl⟩ := step_conclude hstep
    exact h.transport hsame (fun _ _ => rfl) (delivering_setJob_of_silent hc
      hjob (by simp [hinvestigating]) conclude_ne_firing)
  · obtain ⟨job, hjob, hcases⟩ := step_answerPost hstep
    rcases hcases with ⟨resolution, payload, hsent, rfl⟩ | ⟨payload, hsent, rfl⟩
    · have hphase := hw.addressed.phase n job hjob
      rw [hsent] at hphase
      obtain ⟨-, -, previous, -, -, -, hends⟩ := hphase
      exact h.transport hsame
        (fun _ _ => lastFiringPost_post_resolution hends)
        (delivering_setJob_of_silent hc hjob (by simp [hsent]) (by simp))
    · rcases accepted with _ | _
      · exact h.transport hsame (fun _ _ => rfl)
          (delivering_setJob_of_silent hc hjob (by simp [hsent]) (by simp))
      · exact h.acceptFiring hw hjob hsent
  · obtain ⟨job, payload, accepted, hjob, hanswered, rfl⟩ :=
      step_finishTransition hstep
    exact h.transport hsame (fun _ _ => rfl) (delivering_setJob_of_silent hc
      hjob (by simp [hanswered]) afterTransition_ne_firing)
  · obtain ⟨job, payload, hjob, hcases⟩ := step_finishDelivery hstep
    rcases hcases with ⟨hanswered, rfl⟩ | ⟨hanswered, rfl⟩
    · exact h.store hw hjob hanswered
    · exact h.transport hsame (fun _ _ => rfl)
        (delivering_setJob_of_silent hc hjob (by simp [hanswered]) (by simp))
  · obtain ⟨job, outcome, hjob, hfinished, rfl⟩ := step_release hstep
    exact h.transport hsame (fun _ _ => rfl)
      (delivering_release_iff hjob (by simp [hfinished]))

/-! ## Only a delivery changes a row's alert -/

theorem sameDelivery_reconcile {m : String} {table : Table F}
    {anomalies : List Anomaly} (now : ℚ) (hkeyed : KeyedBy cfg.store.scheme table)
    (hcarries : ∀ a ∈ anomalies, a.minionId = m) {f : F} {row : Row F}
    (hrow : table.get? f = some row) :
    ∃ row', (Incident.reconcile cfg.store table m anomalies now).2.get? f =
        some row' ∧
      (row'.delivery = row.delivery ∨
        (row.status = .resolved ∧ row'.status = .active ∧
          row'.delivery = (none, none, none))) := by
  have hcase := reconcile_row hkeyed hcarries now f
  rw [hrow] at hcase
  generalize
    (Incident.reconcile cfg.store table m anomalies now).2.get? f = row'?
    at hcase ⊢
  cases hcase with
  | continues _ row' hcontinues =>
      exact ⟨row', rfl, Or.inl (delivery_of_continues hcontinues)⟩
  | opened _ anomaly _ hclosed =>
      exact ⟨_, rfl, Or.inr ⟨hclosed row rfl, rfl, rfl⟩⟩

theorem delivery_markResolved {table : Table F} {f : F} {row : Row F}
    (hrow : table.get? f = some row) (f' : F) (now : ℚ) :
    ∃ row', (markResolved table f' now).get? f = some row' ∧
      row'.delivery = row.delivery := by
  rw [markResolved, OrderedDict.get?_mapValues, hrow]
  refine ⟨_, rfl, ?_⟩
  dsimp only
  split
  · rfl
  · rfl

theorem changesOnlyByDelivery (hw : WellFormed cfg s) (e : AgentEvent) :
    ChangesOnlyByDelivery cfg s e := by
  intro s' f row hstep hrow
  have hsame : ∃ row', s.table.get? f = some row' ∧
      (row'.delivery = row.delivery ∨ StoresDelivery s e f ∨
        (row.status = .resolved ∧ row'.status = .active ∧
          row'.delivery = (none, none, none))) :=
    ⟨row, hrow, Or.inl rfl⟩
  have hclose : ∀ f' now, ∃ row',
      (markResolved s.table f' now).get? f = some row' ∧
      (row'.delivery = row.delivery ∨ StoresDelivery s e f ∨
        (row.status = .resolved ∧ row'.status = .active ∧
          row'.delivery = (none, none, none))) := by
    intro f' now
    obtain ⟨row', hrow', hdelivery⟩ := delivery_markResolved hrow f' now
    exact ⟨row', hrow', Or.inl hdelivery⟩
  rcases e with ⟨minions, anomalies⟩ | ⟨m, now⟩ | ⟨m, now⟩ |
    ⟨m, accepted, now⟩ | ⟨m, now⟩ | ⟨m, now⟩ | m | n | ⟨n, now⟩ |
    ⟨n, result, now⟩ | ⟨n, accepted, now⟩ | n | ⟨n, now⟩ | n
  · obtain ⟨-, -, rfl⟩ := step_startCycle hstep
    exact hsame
  · obtain ⟨anomalies, hpoll, rfl⟩ := step_reconcile hstep
    obtain ⟨row', hrow', hdelivery | hopened⟩ := sameDelivery_reconcile
      now hw.coherent.keyed (hw.coherent.poll_open m _ hpoll) hrow
    · exact ⟨row', hrow', Or.inl hdelivery⟩
    · exact ⟨row', hrow', Or.inr (Or.inr hopened)⟩
  · obtain ⟨incident, resolved, firing, -, hcases⟩ := step_resolveNext hstep
    rcases hcases with ⟨-, rfl⟩ | ⟨-, -, rfl⟩ | ⟨-, payload, -, rfl⟩
    · exact hsame
    · exact hclose _ _
    · exact hsame
  · obtain ⟨incident, resolution, resolved, firing, -, rfl⟩ :=
      step_answerResolution hstep
    exact hsame
  · obtain ⟨incident, accepted, resolved, firing, -, rfl⟩ :=
      step_finishResolution hstep
    rcases accepted with _ | _
    · exact hsame
    · exact hclose _ _
  · obtain ⟨incident, firing, -, rfl⟩ := step_enqueueNext hstep
    exact hsame
  · obtain ⟨-, rfl⟩ := step_finishMinion hstep
    exact hsame
  · obtain ⟨-, item, queue, -, rfl⟩ := step_pop hstep
    exact hsame
  · obtain ⟨job, -, -, rfl⟩ := step_begin hstep
    exact hsame
  · obtain ⟨job, -, -, rfl⟩ := step_conclude hstep
    exact hsame
  · obtain ⟨job, -, hcases⟩ := step_answerPost hstep
    rcases hcases with ⟨resolution, payload, -, rfl⟩ | ⟨payload, -, rfl⟩
    · exact hsame
    · exact hsame
  · obtain ⟨job, payload, accepted, -, -, rfl⟩ := step_finishTransition hstep
    exact hsame
  · obtain ⟨job, payload, hjob, hcases⟩ := step_finishDelivery hstep
    rcases hcases with ⟨hanswered, rfl⟩ | ⟨-, rfl⟩
    · obtain ⟨hkey, m, hopen⟩ := hw.coherent.job_open n job hjob
      rw [hkey]
      by_cases hf : f = job.fingerprint
      · subst hf
        obtain ⟨row₀, -, -, -, -, hafter⟩ :=
          markEmitted_get?_self hopen payload now
        exact ⟨_, hafter,
          Or.inr (Or.inl ⟨n, now, job, payload, rfl, hjob, rfl, hanswered⟩)⟩
      · exact ⟨row, (markEmitted_get?_of_ne hf).trans hrow, Or.inl rfl⟩
    · exact hsame
  · obtain ⟨job, outcome, -, -, rfl⟩ := step_release hstep
    exact hsame

end Acknowledging

/-- In every run that reconciles each minion at most once a second, the store
describes the last firing alert accepted for each generation, and nothing but
the delivery of an alert changes that description. -/
theorem store_acknowledges_accepted
    (cfg : AgentSettings F) (trace : List AgentEvent)
    (happart : ReconcilesApart trace) :
    EveryState (agentStep cfg) AgentState.initial trace Acknowledges ∧
      EveryStep (agentStep cfg) AgentState.initial trace
        (ChangesOnlyByDelivery cfg) := by
  have hall : ∀ past s, past <+: trace →
      exec (agentStep cfg) AgentState.initial past = some s →
      WellFormed cfg s ∧ Acknowledging s := by
    intro past s hpast hs
    have hinvariant := exec_induction
      (P := fun past s => ReconcilesApart past →
        WellFormed cfg s ∧ Dated past s ∧ Acknowledging s)
      (fun _ => ⟨WellFormed.initial, Dated.initial, Acknowledging.initial⟩)
      (fun past s e s' _ h _ hstep hfresh => by
        obtain ⟨hw, hdated, hack⟩ :=
          h (hfresh.of_prefix (List.prefix_append past [e]))
        exact ⟨hw.step hstep, hdated.step hw hstep,
          hack.step hw hdated hfresh hstep⟩)
      (everyStep_true (agentStep cfg) AgentState.initial past) hs
    obtain ⟨hw, -, hack⟩ := hinvariant (happart.of_prefix hpast)
    exact ⟨hw, hack⟩
  constructor
  · intro past hpast s hs
    exact (hall past s hpast hs).2.settled
  · intro past e hpast s s' hs _
    have hbefore : past <+: trace :=
      (List.prefix_append past [e]).trans hpast
    exact changesOnlyByDelivery (hall past s hbefore hs).1 e

/-- A unit fails, its alert is delivered, and the next cycle sees it again. -/
def deliveredTrace : List AgentEvent :=
  [.startCycle ["web"] [failedUnit], .reconcile "web" 0, .enqueueNext "web" 0,
    .finishMinion "web", .pop 0, .begin 0 1,
    .conclude 0 (.analysis openQuestion) 2, .answerPost 0 true 3,
    .finishDelivery 0 4, .release 0,
    .startCycle ["web"] [failedUnit], .reconcile "web" 60,
    .finishMinion "web"]

/-- The run is possible, and its alert is acknowledged throughout. -/
theorem store_acknowledges_accepted_delivered :
    (exec (agentStep .plain) AgentState.initial deliveredTrace).isSome ∧
      EveryState (agentStep .plain) AgentState.initial deliveredTrace
        Acknowledges ∧
      EveryStep (agentStep .plain) AgentState.initial deliveredTrace
        (ChangesOnlyByDelivery .plain) := by
  have happart : ReconcilesApart deliveredTrace := by decide +kernel
  exact ⟨by decide +kernel,
    store_acknowledges_accepted .plain deliveredTrace happart⟩

end UyuniAgent.Agent
