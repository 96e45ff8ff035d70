import UyuniAgent.Detector.Correlation
import Mathlib.Logic.Relation

/-!
# Correlation and the topology

The configured edges divide the minions into connected components.  A pair is
always selected inside of one component, but there is one pair in a cycle, and
it releases what the window holds of every component and forgets it.
-/

namespace UyuniAgent

/-! ## Components -/

/-- A configured edge leads from the first minion to the second. -/
def Joined (edges : List DependencyEdge) (postgresMinion apacheMinion : String) :
    Prop :=
  ∃ edge ∈ edges, edge.postgresMinion = some postgresMinion ∧
    edge.apacheMinion = some apacheMinion

/-- A chain of edges joins the two minions. -/
def Connected (edges : List DependencyEdge) : String → String → Prop :=
  Relation.EqvGen (Joined edges)

/-- The minions that are connected with one of them. -/
def IsComponent (edges : List DependencyEdge) (inside : String → Bool) : Prop :=
  ∃ minion, ∀ other, inside other = true ↔ Connected edges minion other

/-- No edge leads out of the set. -/
def Closed (edges : List DependencyEdge) (inside : String → Bool) : Prop :=
  ∀ ⦃m m'⦄, Joined edges m m' → inside m = inside m'

theorem IsComponent.closed {edges : List DependencyEdge}
    {inside : String → Bool} (h : IsComponent edges inside) :
    Closed edges inside := by
  obtain ⟨minion, hminion⟩ := h
  intro m m' hjoined
  have hconnected : Connected edges m m' := Relation.EqvGen.rel m m' hjoined
  rw [Bool.eq_iff_iff, hminion, hminion]
  constructor
  · intro hm
    exact Relation.EqvGen.trans minion m m' hm hconnected
  · intro hm'
    exact Relation.EqvGen.trans minion m' m hm'
      (Relation.EqvGen.symm m m' hconnected)

/-- A closed set whose minions are all connected with one of them is its
component. -/
theorem Closed.isComponent {edges : List DependencyEdge}
    {inside : String → Bool} (hclosed : Closed edges inside) {minion : String}
    (hminion : inside minion = true)
    (hall : ∀ other, inside other = true → Connected edges minion other) :
    IsComponent edges inside := by
  have hsame : ∀ m m', Connected edges m m' → inside m = inside m' := by
    intro m m' hconnected
    induction hconnected with
    | rel m m' hjoined => exact hclosed hjoined
    | refl m => rfl
    | symm m m' _ ih => exact ih.symm
    | trans m m' m'' _ _ ih ih' => exact ih.trans ih'
  refine ⟨minion, fun other => ⟨hall other, ?_⟩⟩
  intro hconnected
  rw [← hsame minion other hconnected]
  exact hminion

/-- The anomalies of the minions of a set. -/
def restrict (inside : String → Bool) (anomalies : List Anomaly) :
    List Anomaly :=
  anomalies.filter fun anomaly => inside anomaly.minionId

section Restrict

variable {inside : String → Bool} {anomalies rest : List Anomaly}
  {anomaly : Anomaly}

@[simp] theorem restrict_append :
    restrict inside (anomalies ++ rest) =
      restrict inside anomalies ++ restrict inside rest :=
  List.filter_append ..

theorem restrict_cons_inside (h : inside anomaly.minionId = true) :
    restrict inside (anomaly :: rest) = anomaly :: restrict inside rest :=
  List.filter_cons_of_pos h

theorem restrict_cons_outside (h : inside anomaly.minionId = false) :
    restrict inside (anomaly :: rest) = restrict inside rest :=
  List.filter_cons_of_neg (by simp [h])

theorem mem_restrict :
    anomaly ∈ restrict inside anomalies ↔
      anomaly ∈ anomalies ∧ inside anomaly.minionId = true :=
  List.mem_filter

end Restrict

/-! ## The place of the selected pair -/

/-- The first entry on which a function of values has a result. -/
theorem findSome?_zipIdx_eq_some_iff {α β : Type} {f : α → ℕ → Option β}
    (hplace : ∀ a i j, f a i = none → f a j = none) {xs : List α} {b : β} :
    xs.zipIdx.findSome? (fun entry => f entry.1 entry.2) = some b ↔
      ∃ before a after, xs = before ++ a :: after ∧
        f a before.length = some b ∧ ∀ x ∈ before, ∀ i, f x i = none := by
  rw [List.findSome?_eq_some_iff]
  constructor
  · rintro ⟨front, ⟨a, i⟩, back, heq, hb, hnone⟩
    have hlist : xs = front.map Prod.fst ++ a :: back.map Prod.fst := by
      have hmap := congrArg (List.map Prod.fst) heq
      simpa [List.map_append] using hmap
    have hi : i = (front.map Prod.fst).length := by
      have hget : xs.zipIdx[front.length]? = some (a, i) := by
        rw [heq]
        simp
      rw [List.getElem?_zipIdx] at hget
      obtain ⟨x, -, hx⟩ := Option.map_eq_some_iff.mp hget
      have hindex := congrArg Prod.snd hx
      simpa using hindex.symm
    refine ⟨front.map Prod.fst, a, back.map Prod.fst, hlist, hi ▸ hb, ?_⟩
    intro x hx j
    obtain ⟨⟨x', k⟩, hmem, rfl⟩ := List.mem_map.mp hx
    exact hplace x' k j (hnone _ hmem)
  · rintro ⟨before, a, after, rfl, hb, hnone⟩
    refine ⟨before.zipIdx, (a, before.length),
      after.zipIdx (before.length + 1), ?_, hb, ?_⟩
    · simp [List.zipIdx_append]
    · rintro ⟨x, i⟩ hx
      exact hnone x (List.mem_of_getElem? (List.mem_zipIdx_iff_getElem?.mp hx)) i

variable {edges : List DependencyEdge} {threshold : ℚ}
  {anomalies : List Anomaly}

/-- The pair that the nested loops select, with what stands before its two
anomalies. -/
structure FirstPair (edges : List DependencyEdge) (threshold : ℚ)
    (anomalies : List Anomaly) (apache postgres : Anomaly)
    (beforeApache beforePostgres : List Anomaly) : Prop where
  apacheAt : ∃ after, anomalies = beforeApache ++ apache :: after
  postgresAt : ∃ after, anomalies = beforePostgres ++ postgres :: after
  pair : pairable threshold edges apache postgres = true
  earlier : ∀ a ∈ beforeApache, ∀ p ∈ anomalies,
    pairable threshold edges a p = false
  nearest : ∀ p ∈ beforePostgres, pairable threshold edges apache p = false

/-- The inner loop finds nothing. -/
theorem findSome?_partner_eq_none_iff {apache : Anomaly} {i : ℕ} :
    (anomalies.zipIdx.findSome? fun postgres =>
      if pairable threshold edges apache postgres.1 then some (i, postgres.2)
      else none) = none ↔
      ∀ p ∈ anomalies, pairable threshold edges apache p = false := by
  rw [List.findSome?_eq_none_iff]
  constructor
  · intro hnone p hp
    obtain ⟨j, hj⟩ := List.mem_iff_getElem?.mp hp
    have hentry := hnone (p, j) (List.mem_zipIdx_iff_getElem?.mpr hj)
    simpa using hentry
  · rintro hnone ⟨p, j⟩ hp
    have hmem : p ∈ anomalies :=
      List.mem_of_getElem? (List.mem_zipIdx_iff_getElem?.mp hp)
    simp [hnone p hmem]

theorem selectedPair_eq_some_iff {pair : ℕ × ℕ} :
    selectedPair anomalies edges threshold = some pair ↔
      ∃ apache postgres beforeApache beforePostgres,
        FirstPair edges threshold anomalies apache postgres beforeApache
            beforePostgres ∧
          pair = (beforeApache.length, beforePostgres.length) := by
  have houter := @findSome?_zipIdx_eq_some_iff Anomaly (ℕ × ℕ)
    (fun a i => anomalies.zipIdx.findSome? fun postgres =>
      if pairable threshold edges a postgres.1 then some (i, postgres.2)
      else none)
    (by
      intro a i j hnone
      rw [findSome?_partner_eq_none_iff] at hnone ⊢
      exact hnone) anomalies pair
  have hinner (a : Anomaly) (i : ℕ) := @findSome?_zipIdx_eq_some_iff Anomaly
    (ℕ × ℕ) (fun p j =>
      if pairable threshold edges a p then some (i, j) else none)
    (by
      intro p j k hnone
      simpa using hnone) anomalies pair
  rw [selectedPair]
  refine houter.trans ?_
  constructor
  · rintro ⟨beforeApache, apache, after, happ, hfound, hearlier⟩
    obtain ⟨beforePostgres, postgres, after', hpost, hpair, hnearest⟩ :=
      (hinner apache beforeApache.length).mp hfound
    split at hpair
    next hok =>
      refine ⟨apache, postgres, beforeApache, beforePostgres,
        ⟨⟨after, happ⟩, ⟨after', hpost⟩, hok, ?_, ?_⟩,
        (Option.some.inj hpair).symm⟩
      · intro a ha
        exact findSome?_partner_eq_none_iff.mp (hearlier a ha 0)
      · intro p hp
        simpa using hnearest p hp 0
    next => cases hpair
  · rintro ⟨apache, postgres, beforeApache, beforePostgres, h, rfl⟩
    obtain ⟨after, happ⟩ := h.apacheAt
    obtain ⟨after', hpost⟩ := h.postgresAt
    refine ⟨beforeApache, apache, after, happ, ?_, ?_⟩
    · apply (hinner apache beforeApache.length).mpr
      refine ⟨beforePostgres, postgres, after', hpost, if_pos h.pair, ?_⟩
      intro p hp i
      simp [h.nearest p hp]
    · intro a ha i
      exact findSome?_partner_eq_none_iff.mpr (h.earlier a ha)

theorem selectedPair_eq_none_iff :
    selectedPair anomalies edges threshold = none ↔
      ∀ a ∈ anomalies, ∀ p ∈ anomalies,
        pairable threshold edges a p = false := by
  rw [selectedPair, List.findSome?_eq_none_iff]
  constructor
  · intro hnone a ha
    obtain ⟨i, hi⟩ := List.mem_iff_getElem?.mp ha
    exact findSome?_partner_eq_none_iff.mp
      (hnone (a, i) (List.mem_zipIdx_iff_getElem?.mpr hi))
  · rintro hnone ⟨a, i⟩ ha
    have hmem : a ∈ anomalies :=
      List.mem_of_getElem? (List.mem_zipIdx_iff_getElem?.mp ha)
    exact findSome?_partner_eq_none_iff.mpr (hnone a hmem)

/-! ## The place of the correlated anomaly -/

/-- Two values at two places: one of them stands before the other. -/
theorem two_places {α : Type} {before before' after after' : List α} {x y : α}
    (heq : before ++ x :: after = before' ++ y :: after') (hne : x ≠ y) :
    (∃ between, before' = before ++ x :: between ∧
        after = between ++ y :: after') ∨
      ∃ between, before = before' ++ y :: between ∧
        after' = between ++ x :: after := by
  rcases List.append_eq_append_iff.mp heq with
    ⟨between, hbefore, hafter⟩ | ⟨between, hbefore, hafter⟩
  · rcases between with _ | ⟨first, between⟩
    · exact absurd (List.cons.inj hafter).1 hne
    · obtain ⟨rfl, htail⟩ := List.cons.inj hafter
      exact Or.inl ⟨between, hbefore, htail⟩
  · rcases between with _ | ⟨first, between⟩
    · exact absurd (List.cons.inj hafter).1.symm hne
    · obtain ⟨rfl, htail⟩ := List.cons.inj hafter
      exact Or.inr ⟨between, hbefore, htail⟩

/-- What the loop of `absorbPair` makes of one entry. -/
def absorbEntry (correlated : Anomaly) (pair : ℕ × ℕ) (entry : Anomaly × ℕ) :
    List Anomaly :=
  (if entry.2 = min pair.1 pair.2 then [correlated] else []) ++
    (if entry.2 = pair.1 ∨ entry.2 = pair.2 then [] else [entry.1])

theorem absorbEntry_outside {correlated : Anomaly} {pair : ℕ × ℕ}
    {xs : List Anomaly} {k : ℕ}
    (hout : ∀ i, k ≤ i → i < k + xs.length → i ≠ pair.1 ∧ i ≠ pair.2) :
    (xs.zipIdx k).flatMap (absorbEntry correlated pair) = xs := by
  induction xs generalizing k with
  | nil => rfl
  | cons x xs ih =>
      have hk := hout k le_rfl (by simp)
      have hmin : k ≠ min pair.1 pair.2 := by omega
      have hrest := ih (k := k + 1) (by
        intro i hi hlt
        apply hout i
        · omega
        · rw [List.length_cons]
          omega)
      rw [List.zipIdx_cons, List.flatMap_cons, hrest]
      simp [absorbEntry, hk.1, hk.2, hmin]

/-- The correlated anomaly takes the first of the two places. -/
theorem absorbPair_eq {correlated x y : Anomaly} {P Q S : List Anomaly} :
    absorbPair correlated (P.length, P.length + 1 + Q.length)
        (P ++ x :: (Q ++ y :: S)) =
      P ++ correlated :: (Q ++ S) := by
  have hflat : absorbPair correlated (P.length, P.length + 1 + Q.length)
      (P ++ x :: (Q ++ y :: S)) =
      ((P ++ x :: (Q ++ y :: S)).zipIdx).flatMap
        (absorbEntry correlated (P.length, P.length + 1 + Q.length)) := rfl
  rw [hflat]
  simp only [List.zipIdx_append, List.zipIdx_cons, List.flatMap_append,
    List.flatMap_cons]
  have hmin : min P.length (P.length + 1 + Q.length) = P.length := by omega
  have hfirst : P.length ≠ P.length + 1 + Q.length := by omega
  rw [absorbEntry_outside, absorbEntry_outside, absorbEntry_outside]
  · simp [absorbEntry, hmin, hfirst, hfirst.symm]
  all_goals
    intro i hi hlt
    dsimp only
    omega

theorem absorbPair_swap {correlated : Anomaly} {i j : ℕ} :
    absorbPair correlated (i, j) anomalies =
      absorbPair correlated (j, i) anomalies := by
  simp only [absorbPair, min_comm i j, or_comm]

/-! ## Correlation within a closed set -/

section Closed

variable {inside : String → Bool} (hclosed : Closed edges inside)

include hclosed

/-- A pair lies inside of a closed set or outside of it. -/
theorem inside_eq_of_pairable {apache postgres : Anomaly}
    (h : pairable threshold edges apache postgres = true) :
    inside postgres.minionId = inside apache.minionId := by
  rw [pairable, Bool.and_eq_true, Bool.or_eq_true] at h
  rcases h.2 with hsame | hedge
  · rw [of_decide_eq_true hsame]
  · obtain ⟨edge, hmem, hends⟩ := List.any_eq_true.mp hedge
    rw [Bool.and_eq_true, decide_eq_true_eq, decide_eq_true_eq] at hends
    exact hclosed ⟨edge, hmem, hends.2, hends.1⟩

omit hclosed in
/-- The two anomalies of a pair report different metrics. -/
theorem ne_of_pairable {apache postgres : Anomaly}
    (h : pairable threshold edges apache postgres = true) :
    apache ≠ postgres := by
  rintro rfl
  simp only [pairable, isApacheDependencyCandidate,
    isPostgresDependencyCandidate, Bool.and_eq_true, decide_eq_true_eq] at h
  have hmetric := h.1.1.1.symm.trans h.1.2.1
  exact absurd hmetric (by decide)

/-- The two anomalies of a pair are `x` and `y`, in this order, with `P` before
the first one and `Q` between them. -/
def InOrder (apache postgres : Anomaly)
    (beforeApache beforePostgres P Q : List Anomaly) (x y : Anomaly) : Prop :=
  (x = apache ∧ y = postgres ∧ beforeApache = P ∧
      beforePostgres = P ++ x :: Q) ∨
    (x = postgres ∧ y = apache ∧ beforePostgres = P ∧
      beforeApache = P ++ x :: Q)

/-- The pair that is selected inside of the set is the one that is selected in
the share of the set. -/
theorem FirstPair.restrict {apache postgres : Anomaly}
    {beforeApache beforePostgres : List Anomaly}
    (h : FirstPair edges threshold anomalies apache postgres beforeApache
      beforePostgres)
    (hinside : inside apache.minionId = true) :
    FirstPair edges threshold (UyuniAgent.restrict inside anomalies) apache
      postgres (UyuniAgent.restrict inside beforeApache)
      (UyuniAgent.restrict inside beforePostgres) := by
  have hpostgres : inside postgres.minionId = true := by
    rw [inside_eq_of_pairable hclosed h.pair, hinside]
  obtain ⟨after, happ⟩ := h.apacheAt
  obtain ⟨after', hpost⟩ := h.postgresAt
  refine ⟨⟨UyuniAgent.restrict inside after, ?_⟩,
    ⟨UyuniAgent.restrict inside after', ?_⟩, h.pair, ?_, ?_⟩
  · rw [happ, restrict_append, restrict_cons_inside hinside]
  · rw [hpost, restrict_append, restrict_cons_inside hpostgres]
  · intro a ha p hp
    exact h.earlier a (mem_restrict.mp ha).1 p (mem_restrict.mp hp).1
  · intro p hp
    exact h.nearest p (mem_restrict.mp hp).1

omit hclosed in
/-- The places of a pair in their order. -/
theorem FirstPair.places {apache postgres : Anomaly}
    {beforeApache beforePostgres : List Anomaly}
    (h : FirstPair edges threshold anomalies apache postgres beforeApache
      beforePostgres) :
    ∃ P Q S x y, anomalies = P ++ x :: (Q ++ y :: S) ∧
      InOrder apache postgres beforeApache beforePostgres P Q x y := by
  obtain ⟨after, happ⟩ := h.apacheAt
  obtain ⟨after', hpost⟩ := h.postgresAt
  rcases two_places (happ.symm.trans hpost) (ne_of_pairable h.pair) with
    ⟨between, hbefore, rfl⟩ | ⟨between, hbefore, rfl⟩
  · exact ⟨beforeApache, between, after', apache, postgres, happ,
      Or.inl ⟨rfl, rfl, rfl, hbefore⟩⟩
  · exact ⟨beforePostgres, between, after, postgres, apache, hpost,
      Or.inr ⟨rfl, rfl, rfl, hbefore⟩⟩

omit hclosed in
/-- The chain stands at the first place, and both anomalies are gone. -/
theorem FirstPair.correlate {apache postgres x y : Anomaly}
    {beforeApache beforePostgres P Q S : List Anomaly}
    (h : FirstPair edges threshold anomalies apache postgres beforeApache
      beforePostgres)
    (hplaces : anomalies = P ++ x :: (Q ++ y :: S))
    (horder : InOrder apache postgres beforeApache beforePostgres P Q x y) :
    correlateDependencyAnomalies anomalies edges threshold =
      P ++ correlatedAnomaly apache postgres :: (Q ++ S) := by
  have hselected := selectedPair_eq_some_iff.mpr
    ⟨apache, postgres, beforeApache, beforePostgres, h, rfl⟩
  have hcorrelate : correlateDependencyAnomalies anomalies edges threshold =
      absorbPair (correlatedAnomaly apache postgres)
        (beforeApache.length, beforePostgres.length) anomalies := by
    obtain ⟨after, happ⟩ := h.apacheAt
    obtain ⟨after', hpost⟩ := h.postgresAt
    have hfirst : anomalies[beforeApache.length]? = some apache := by
      rw [happ]
      simp
    have hsecond : anomalies[beforePostgres.length]? = some postgres := by
      rw [hpost]
      simp
    simp [correlateDependencyAnomalies, hselected, hfirst, hsecond]
  have hlater : (P ++ x :: Q).length = P.length + 1 + Q.length := by
    rw [List.length_append, List.length_cons]
    omega
  rcases horder with ⟨-, -, rfl, rfl⟩ | ⟨-, -, rfl, rfl⟩
  · rw [hcorrelate, hlater, hplaces, absorbPair_eq]
  · rw [hcorrelate, absorbPair_swap, hlater, hplaces, absorbPair_eq]

/-- A pair inside of the set is correlated as in the share of the set. -/
theorem restrict_correlate_inside {apache postgres : Anomaly}
    {beforeApache beforePostgres : List Anomaly}
    (h : FirstPair edges threshold anomalies apache postgres beforeApache
      beforePostgres)
    (hinside : inside apache.minionId = true) :
    restrict inside (correlateDependencyAnomalies anomalies edges threshold) =
      correlateDependencyAnomalies (restrict inside anomalies) edges
        threshold := by
  have hpostgres : inside postgres.minionId = true := by
    rw [inside_eq_of_pairable hclosed h.pair, hinside]
  have hcorrelated : inside (correlatedAnomaly apache postgres).minionId =
      true := hinside
  obtain ⟨P, Q, S, x, y, hplaces, horder⟩ := h.places
  have hx : inside x.minionId = true := by
    rcases horder with ⟨rfl, -⟩ | ⟨rfl, -⟩
    · exact hinside
    · exact hpostgres
  have hy : inside y.minionId = true := by
    rcases horder with ⟨-, rfl, -⟩ | ⟨-, rfl, -⟩
    · exact hpostgres
    · exact hinside
  have hshare : restrict inside anomalies = restrict inside P ++
      x :: (restrict inside Q ++ y :: restrict inside S) := by
    rw [hplaces, restrict_append, restrict_cons_inside hx, restrict_append,
      restrict_cons_inside hy]
  have horder' : InOrder apache postgres (restrict inside beforeApache)
      (restrict inside beforePostgres) (restrict inside P) (restrict inside Q)
      x y := by
    rcases horder with ⟨hxa, hyp, rfl, rfl⟩ | ⟨hxp, hya, rfl, rfl⟩
    · refine Or.inl ⟨hxa, hyp, rfl, ?_⟩
      rw [restrict_append, restrict_cons_inside hx]
    · refine Or.inr ⟨hxp, hya, rfl, ?_⟩
      rw [restrict_append, restrict_cons_inside hx]
  rw [h.correlate hplaces horder,
    (h.restrict hclosed hinside).correlate hshare horder', restrict_append,
    restrict_cons_inside hcorrelated, restrict_append]

/-- A pair outside of the set leaves the share of the set as it was. -/
theorem restrict_correlate_outside {apache postgres : Anomaly}
    {beforeApache beforePostgres : List Anomaly}
    (h : FirstPair edges threshold anomalies apache postgres beforeApache
      beforePostgres)
    (houtside : inside apache.minionId = false) :
    restrict inside (correlateDependencyAnomalies anomalies edges threshold) =
      restrict inside anomalies := by
  have hpostgres : inside postgres.minionId = false := by
    rw [inside_eq_of_pairable hclosed h.pair, houtside]
  have hcorrelated : inside (correlatedAnomaly apache postgres).minionId =
      false := houtside
  obtain ⟨P, Q, S, x, y, hplaces, horder⟩ := h.places
  have hx : inside x.minionId = false := by
    rcases horder with ⟨rfl, -⟩ | ⟨rfl, -⟩
    · exact houtside
    · exact hpostgres
  have hy : inside y.minionId = false := by
    rcases horder with ⟨-, rfl, -⟩ | ⟨-, rfl, -⟩
    · exact hpostgres
    · exact houtside
  rw [h.correlate hplaces horder, hplaces, restrict_append,
    restrict_cons_outside hcorrelated, restrict_append, restrict_append,
    restrict_cons_outside hx, restrict_append, restrict_cons_outside hy]

end Closed

/-! ## The window within a closed set -/

namespace DependencyCorrelationWindow

/-- The outputs of `correlate` in a sequence of cycles with their times. -/
def outputs (cfg : CorrelationSettings) (edges : List DependencyEdge) :
    DependencyCorrelationWindow → List (List Anomaly × ℚ) →
      List (List Anomaly)
  | _, [] => []
  | window, (anomalies, now) :: cycles =>
      let (reported, window) := window.correlate cfg anomalies edges now
      reported :: outputs cfg edges window cycles

/-- The cycle has a chain, and it is no chain of the set. -/
def chainsElsewhere (inside : String → Bool) (cfg : CorrelationSettings)
    (edges : List DependencyEdge) (anomalies : List Anomaly) : Bool :=
  match selectedPair anomalies edges cfg.apacheTrafficThreshold with
  | some pair =>
      (anomalies[pair.1]? : Option Anomaly).any fun apache =>
        !inside apache.minionId
  | none =>
      anomalies.any fun anomaly =>
        anomaly.metricName = "postgres_apache_chain" &&
          !inside anomaly.minionId

/-- No anomaly of the set can be held or absorbed in the cycle. -/
def idle (inside : String → Bool) (cfg : CorrelationSettings)
    (edges : List DependencyEdge) (anomalies : List Anomaly) : Bool :=
  anomalies.all fun anomaly =>
    !inside anomaly.minionId ||
      ((cfg.graceSeconds = 0 || !isCrossMinionCandidate cfg edges anomaly) &&
        anomalies.all fun other =>
          !pairable cfg.apacheTrafficThreshold edges anomaly other)

/-- A cycle that disturbs no candidate of the set. -/
def undisturbed (inside : String → Bool) (cfg : CorrelationSettings)
    (edges : List DependencyEdge) (anomalies : List Anomaly) : Bool :=
  !chainsElsewhere inside cfg edges anomalies ||
    idle inside cfg edges anomalies

section Hold

variable {cfg : CorrelationSettings} {inside : String → Bool}
  {keys keys' : List IdentityKey} {now : ℚ}
  {firstSeen firstSeen' : OrderedDict IdentityKey ℚ}

/-- Without candidates or without a grace period nothing is held. -/
theorem holdCandidates_idle
    (hidle : cfg.graceSeconds = 0 ∨
      ∀ anomaly ∈ anomalies, anomaly.identityKey ∉ keys) :
    holdCandidates cfg keys now firstSeen anomalies =
      (anomalies, firstSeen, 0) := by
  induction anomalies with
  | nil => rfl
  | cons first rest ih =>
      have hfirst : first.identityKey ∉ keys ∨ cfg.graceSeconds = 0 := by
        rcases hidle with hgrace | hnone
        · exact Or.inr hgrace
        · exact Or.inl (hnone first List.mem_cons_self)
      have hrest := ih (hidle.imp_right fun hnone anomaly hanomaly =>
        hnone anomaly (List.mem_cons_of_mem first hanomaly))
      simp only [holdCandidates, if_pos hfirst, hrest]

/-- What the loop makes of the anomalies of a set depends only on them. -/
theorem restrict_holdCandidates
    (hkeys : ∀ key : IdentityKey, inside key.minionId = true →
      (key ∈ keys ↔ key ∈ keys'))
    (hseen : ∀ key : IdentityKey, inside key.minionId = true →
      firstSeen.get? key = firstSeen'.get? key) :
    restrict inside (holdCandidates cfg keys now firstSeen anomalies).1 =
        (holdCandidates cfg keys' now firstSeen'
          (restrict inside anomalies)).1 ∧
      ∀ key : IdentityKey, inside key.minionId = true →
        (holdCandidates cfg keys now firstSeen anomalies).2.1.get? key =
          (holdCandidates cfg keys' now firstSeen'
            (restrict inside anomalies)).2.1.get? key := by
  induction anomalies generalizing firstSeen firstSeen' with
  | nil => exact ⟨rfl, hseen⟩
  | cons first rest ih =>
      rcases hinside : inside first.minionId with _ | _
      · rw [restrict_cons_outside hinside]
        simp only [holdCandidates]
        split
        · obtain ⟨hpassed, hlater⟩ := ih hseen
          rw [restrict_cons_outside hinside]
          exact ⟨hpassed, hlater⟩
        · have hset : ∀ key : IdentityKey, inside key.minionId = true →
              (firstSeen.set first.identityKey
                ((firstSeen.get? first.identityKey).getD now)).get? key =
                firstSeen'.get? key := by
            intro key hkey
            have hne : key ≠ first.identityKey := by
              rintro rfl
              exact absurd (hinside.symm.trans hkey) (by decide)
            rw [OrderedDict.get?_set_of_ne hne]
            exact hseen key hkey
          obtain ⟨hpassed, hlater⟩ := ih hset
          split
          · exact ⟨hpassed, hlater⟩
          · rw [restrict_cons_outside hinside]
            exact ⟨hpassed, hlater⟩
      · have hcandidate : (first.identityKey ∉ keys ∨ cfg.graceSeconds = 0) ↔
            (first.identityKey ∉ keys' ∨ cfg.graceSeconds = 0) := by
          rw [hkeys first.identityKey hinside]
        have hfirst := hseen first.identityKey hinside
        rw [restrict_cons_inside hinside]
        simp only [holdCandidates, hcandidate, hfirst]
        split
        · obtain ⟨hpassed, hlater⟩ := ih hseen
          rw [restrict_cons_inside hinside, hpassed]
          exact ⟨rfl, hlater⟩
        · have hset : ∀ key : IdentityKey, inside key.minionId = true →
              (firstSeen.set first.identityKey
                ((firstSeen'.get? first.identityKey).getD now)).get? key =
                (firstSeen'.set first.identityKey
                  ((firstSeen'.get? first.identityKey).getD now)).get? key := by
            intro key hkey
            rw [OrderedDict.get?_set, OrderedDict.get?_set, hseen key hkey]
          obtain ⟨hpassed, hlater⟩ := ih hset
          split
          · exact ⟨hpassed, hlater⟩
          · rw [restrict_cons_inside hinside, hpassed]
            exact ⟨rfl, hlater⟩

theorem mem_candidateKeys_restrict {key : IdentityKey}
    (hkey : inside key.minionId = true) :
    key ∈ candidateKeys cfg edges anomalies ↔
      key ∈ candidateKeys cfg edges (restrict inside anomalies) := by
  simp only [candidateKeys, List.mem_map, List.mem_filter, mem_restrict]
  constructor
  · rintro ⟨anomaly, ⟨hmem, hcandidate⟩, rfl⟩
    exact ⟨anomaly, ⟨⟨hmem, hkey⟩, hcandidate⟩, rfl⟩
  · rintro ⟨anomaly, ⟨⟨hmem, -⟩, hcandidate⟩, rfl⟩
    exact ⟨anomaly, ⟨hmem, hcandidate⟩, rfl⟩

end Hold

/-! ## Every cycle -/

/-- Two windows remember the same of the set; without a grace period they
remember nothing of it. -/
structure RemembersAlike (cfg : CorrelationSettings) (inside : String → Bool)
    (window window' : DependencyCorrelationWindow) : Prop where
  same : ∀ key : IdentityKey, inside key.minionId = true →
    window.firstSeen.get? key = window'.firstSeen.get? key
  none : cfg.graceSeconds = 0 → ∀ key : IdentityKey,
    inside key.minionId = true → window'.firstSeen.get? key = none

section Cycle

variable {cfg : CorrelationSettings} {inside : String → Bool} {now : ℚ}
  {window window' : DependencyCorrelationWindow}

theorem RemembersAlike.refl_initial :
    RemembersAlike cfg inside initial initial :=
  ⟨fun _ _ => rfl, fun _ _ _ => rfl⟩

/-- A cycle with a chain forgets everything. -/
theorem correlate_of_chain
    (hchain : (correlateDependencyAnomalies anomalies edges
      cfg.apacheTrafficThreshold).any (·.metricName = "postgres_apache_chain") =
        true) :
    window.correlate cfg anomalies edges now =
      (correlateDependencyAnomalies anomalies edges cfg.apacheTrafficThreshold,
        initial) := by
  simp only [correlate, hchain, if_true]

/-- A cycle without a chain holds its candidates. -/
theorem correlate_of_no_chain
    (hpair : selectedPair anomalies edges cfg.apacheTrafficThreshold = none)
    (hchain : anomalies.any (·.metricName = "postgres_apache_chain") =
      false) :
    window.correlate cfg anomalies edges now =
      let keys := candidateKeys cfg edges anomalies
      let held := holdCandidates cfg keys now
        (window.firstSeen.filter fun entry => entry.1 ∈ keys) anomalies
      (held.1, ⟨held.2.1, held.2.2⟩) := by
  have hsame := correlate_of_no_pair hpair
  simp only [correlate, hsame, hchain]
  rfl

theorem selectedPair_restrict_of_none
    (hpair : selectedPair anomalies edges cfg.apacheTrafficThreshold = none) :
    selectedPair (restrict inside anomalies) edges cfg.apacheTrafficThreshold =
      none := by
  rw [selectedPair_eq_none_iff] at hpair ⊢
  intro a ha p hp
  exact hpair a (mem_restrict.mp ha).1 p (mem_restrict.mp hp).1

theorem of_idle (hidle : idle inside cfg edges anomalies = true)
    {anomaly : Anomaly} (hmem : anomaly ∈ restrict inside anomalies) :
    (cfg.graceSeconds = 0 ∨ isCrossMinionCandidate cfg edges anomaly = false) ∧
      ∀ other ∈ anomalies,
        pairable cfg.apacheTrafficThreshold edges anomaly other = false := by
  obtain ⟨hmem, hinside⟩ := mem_restrict.mp hmem
  have hanomaly := List.all_eq_true.mp hidle anomaly hmem
  simpa [hinside] using hanomaly

/-- An idle share passes, and nothing of it is remembered. -/
theorem correlate_of_idle (hidle : idle inside cfg edges anomalies = true)
    (hnone : cfg.graceSeconds = 0 → ∀ key : IdentityKey,
      inside key.minionId = true → window.firstSeen.get? key = none) :
    (window.correlate cfg (restrict inside anomalies) edges now).1 =
        restrict inside anomalies ∧
      ∀ key : IdentityKey, inside key.minionId = true →
        (window.correlate cfg (restrict inside anomalies) edges
          now).2.firstSeen.get? key = none := by
  have hpair : selectedPair (restrict inside anomalies) edges
      cfg.apacheTrafficThreshold = none := by
    rw [selectedPair_eq_none_iff]
    intro a ha p hp
    exact (of_idle hidle ha).2 p (mem_restrict.mp hp).1
  rcases hchain : (restrict inside anomalies).any
    (·.metricName = "postgres_apache_chain") with _ | _
  · have hfree : cfg.graceSeconds = 0 ∨ ∀ a ∈ restrict inside anomalies,
        a.identityKey ∉ candidateKeys cfg edges (restrict inside anomalies) := by
      by_cases hgrace : cfg.graceSeconds = 0
      · exact Or.inl hgrace
      · refine Or.inr fun a _ hkey => ?_
        obtain ⟨candidate, hcandidate, -⟩ := List.mem_map.mp hkey
        obtain ⟨hmem, hcross⟩ := List.mem_filter.mp hcandidate
        rcases (of_idle hidle hmem).1 with hzero | hfalse
        · exact hgrace hzero
        · exact absurd (hfalse.symm.trans hcross) (by decide)
    rw [correlate_of_no_chain hpair hchain]
    simp only [holdCandidates_idle hfree, true_and]
    intro key hkey
    rw [OrderedDict.get?_filter]
    rcases hfree with hgrace | hfree
    · rw [hnone hgrace key hkey]
      rfl
    · have hout : key ∉ candidateKeys cfg edges
          (restrict inside anomalies) := by
        intro hcandidate
        obtain ⟨a, ha, rfl⟩ := List.mem_map.mp hcandidate
        exact hfree a (List.mem_filter.mp ha).1 hcandidate
      simp [hout]
  · have hsame := correlate_of_no_pair hpair
    rw [correlate_of_chain (by rw [hsame]; exact hchain), hsame]
    exact ⟨rfl, fun _ _ => rfl⟩

/-- A chain of a cycle lets the share of the set pass, and an idle share passes
on its own. -/
theorem restrict_correlate_of_idle
    (hidle : idle inside cfg edges anomalies = true)
    (hchain : (correlateDependencyAnomalies anomalies edges
      cfg.apacheTrafficThreshold).any (·.metricName = "postgres_apache_chain") =
        true)
    (hshare : restrict inside (correlateDependencyAnomalies anomalies edges
      cfg.apacheTrafficThreshold) = restrict inside anomalies)
    (halike : RemembersAlike cfg inside window window') :
    restrict inside (window.correlate cfg anomalies edges now).1 =
        (window'.correlate cfg (restrict inside anomalies) edges now).1 ∧
      RemembersAlike cfg inside (window.correlate cfg anomalies edges now).2
        (window'.correlate cfg (restrict inside anomalies) edges now).2 := by
  obtain ⟨hpassed, hnone⟩ := correlate_of_idle hidle halike.none
  rw [correlate_of_chain hchain]
  refine ⟨hshare.trans hpassed.symm, ?_, fun _ => hnone⟩
  intro key hkey
  exact (hnone key hkey).symm

theorem restrict_correlate_of_no_pair
    (hpair : selectedPair anomalies edges cfg.apacheTrafficThreshold = none)
    (hundisturbed : undisturbed inside cfg edges anomalies = true)
    (halike : RemembersAlike cfg inside window window') :
    restrict inside (window.correlate cfg anomalies edges now).1 =
        (window'.correlate cfg (restrict inside anomalies) edges now).1 ∧
      RemembersAlike cfg inside (window.correlate cfg anomalies edges now).2
        (window'.correlate cfg (restrict inside anomalies) edges now).2 := by
  have hpair' : selectedPair (restrict inside anomalies) edges
      cfg.apacheTrafficThreshold = none := selectedPair_restrict_of_none hpair
  have hsame := correlate_of_no_pair hpair
  have hsame' := correlate_of_no_pair hpair'
  rcases hchain : anomalies.any (·.metricName = "postgres_apache_chain")
    with _ | _
  · have hchain' : (restrict inside anomalies).any
        (·.metricName = "postgres_apache_chain") = false := by
      rw [List.any_eq_false] at hchain ⊢
      intro a ha
      exact hchain a (mem_restrict.mp ha).1
    have hseen : ∀ key : IdentityKey, inside key.minionId = true →
        (window.firstSeen.filter fun entry =>
          entry.1 ∈ candidateKeys cfg edges anomalies).get? key =
        (window'.firstSeen.filter fun entry => entry.1 ∈
          candidateKeys cfg edges (restrict inside anomalies)).get? key := by
      intro key hkey
      have hcandidate : key ∈ candidateKeys cfg edges anomalies ↔
          key ∈ candidateKeys cfg edges (restrict inside anomalies) :=
        mem_candidateKeys_restrict hkey
      rw [OrderedDict.get?_filter, OrderedDict.get?_filter,
        halike.same key hkey]
      simp only [hcandidate]
    obtain ⟨hpassed, hlater⟩ := restrict_holdCandidates
      (fun key hkey => mem_candidateKeys_restrict hkey) hseen
    rw [correlate_of_no_chain hpair hchain,
      correlate_of_no_chain hpair' hchain']
    refine ⟨hpassed, hlater, ?_⟩
    intro hgrace key hkey
    simp only [holdCandidates_idle (Or.inl hgrace)]
    rw [OrderedDict.get?_filter, halike.none hgrace key hkey]
    rfl
  · rcases hchain' : (restrict inside anomalies).any
      (·.metricName = "postgres_apache_chain") with _ | _
    · -- the chain is none of the set, so the set is idle
      have helsewhere : chainsElsewhere inside cfg edges anomalies = true := by
        rw [chainsElsewhere, hpair]
        obtain ⟨a, ha, hmetric⟩ := List.any_eq_true.mp hchain
        apply List.any_eq_true.mpr
        refine ⟨a, ha, ?_⟩
        rw [hmetric, Bool.true_and, Bool.not_eq_true']
        by_contra hinside
        rw [Bool.not_eq_false] at hinside
        exact List.any_eq_false.mp hchain' a
          (mem_restrict.mpr ⟨ha, hinside⟩) hmetric
      have hidle : idle inside cfg edges anomalies = true := by
        simpa [undisturbed, helsewhere] using hundisturbed
      apply restrict_correlate_of_idle hidle _ _ halike
      · rw [hsame]
        exact hchain
      · rw [hsame]
    · rw [correlate_of_chain (by rw [hsame]; exact hchain),
        correlate_of_chain (by rw [hsame']; exact hchain'), hsame, hsame']
      exact ⟨rfl, RemembersAlike.refl_initial⟩

/-- In an undisturbed cycle the output for the set is that of its share. -/
theorem restrict_correlate (hclosed : Closed edges inside)
    (hundisturbed : undisturbed inside cfg edges anomalies = true)
    (halike : RemembersAlike cfg inside window window') :
    restrict inside (window.correlate cfg anomalies edges now).1 =
        (window'.correlate cfg (restrict inside anomalies) edges now).1 ∧
      RemembersAlike cfg inside (window.correlate cfg anomalies edges now).2
        (window'.correlate cfg (restrict inside anomalies) edges now).2 := by
  rcases hpair : selectedPair anomalies edges cfg.apacheTrafficThreshold with
    _ | pair
  · exact restrict_correlate_of_no_pair hpair hundisturbed halike
  · obtain ⟨apache, postgres, beforeApache, beforePostgres, hfirst, rfl⟩ :=
      selectedPair_eq_some_iff.mp hpair
    rcases hinside : inside apache.minionId with _ | _
    · have helsewhere : chainsElsewhere inside cfg edges anomalies = true := by
        obtain ⟨after, happ⟩ := hfirst.apacheAt
        have hget : anomalies[beforeApache.length]? = some apache := by
          rw [happ]
          simp
        simp [chainsElsewhere, hpair, hget, hinside]
      have hidle : idle inside cfg edges anomalies = true := by
        simpa [undisturbed, helsewhere] using hundisturbed
      exact restrict_correlate_of_idle hidle (any_chain_of_pair hpair)
        (restrict_correlate_outside hclosed hfirst hinside) halike
    · have hshare := selectedPair_eq_some_iff.mpr
        ⟨apache, postgres, _, _, hfirst.restrict hclosed hinside, rfl⟩
      rw [correlate_of_chain (any_chain_of_pair hpair),
        correlate_of_chain (any_chain_of_pair hshare)]
      exact ⟨restrict_correlate_inside hclosed hfirst hinside,
        RemembersAlike.refl_initial⟩

end Cycle

/-! ## Every run -/

section Run

variable {cfg : CorrelationSettings} {inside : String → Bool}

/-- The share of the set in the cycles of a run. -/
def restrictCycles (inside : String → Bool)
    (cycles : List (List Anomaly × ℚ)) : List (List Anomaly × ℚ) :=
  cycles.map fun cycle => (restrict inside cycle.1, cycle.2)

/-- An undisturbed run shows of the set what a run of its share alone shows. -/
theorem restrict_outputs (hclosed : Closed edges inside)
    {window window' : DependencyCorrelationWindow}
    (halike : RemembersAlike cfg inside window window')
    {cycles : List (List Anomaly × ℚ)}
    (hundisturbed : ∀ cycle ∈ cycles,
      undisturbed inside cfg edges cycle.1 = true) :
    (outputs cfg edges window cycles).map (restrict inside) =
      outputs cfg edges window' (restrictCycles inside cycles) := by
  induction cycles generalizing window window' with
  | nil => rfl
  | cons cycle cycles ih =>
      obtain ⟨houtput, hnext⟩ := @restrict_correlate _ _ cfg _ cycle.2 window
        window' hclosed (hundisturbed cycle List.mem_cons_self) halike
      have hlater := ih hnext fun later hlater =>
        hundisturbed later (List.mem_cons_of_mem cycle hlater)
      have hrest := congrArg₂ List.cons houtput hlater
      exact hrest

end Run

/-- Two runs that agree on a component agree in its outputs, when no chain of
another component disturbs it. -/
theorem correlation_local_of_undisturbed (cfg : CorrelationSettings)
    (edges : List DependencyEdge) (inside : String → Bool)
    (hcomponent : IsComponent edges inside)
    (cycles cycles' : List (List Anomaly × ℚ))
    (hagree : restrictCycles inside cycles = restrictCycles inside cycles')
    (hundisturbed : ∀ cycle ∈ cycles,
      undisturbed inside cfg edges cycle.1 = true)
    (hundisturbed' : ∀ cycle ∈ cycles',
      undisturbed inside cfg edges cycle.1 = true) :
    (outputs cfg edges initial cycles).map (restrict inside) =
      (outputs cfg edges initial cycles').map (restrict inside) := by
  have hclosed := hcomponent.closed
  have hshare := restrict_outputs hclosed
    (@RemembersAlike.refl_initial cfg inside) hundisturbed
  have hshare' := restrict_outputs hclosed
    (@RemembersAlike.refl_initial cfg inside) hundisturbed'
  rw [hshare, hshare', hagree]

/-! ## Two applications -/

/-- Apache is saturated without much traffic. -/
def saturatedApache (minionId : String) : Anomaly where
  minionId := minionId
  metricName := "apache_busy_workers"
  currentValue := 96
  threshold := 95
  severity := .critical
  description := "Apache busy workers at 96.0"
  serviceName := some "apache2"
  resource := some "apache:workers"
  context := .apache "exporter:9117" (some 96) (some 20)

/-- A query of the backend waits for a lock. -/
def blockedBackend (minionId : String) : Anomaly where
  minionId := minionId
  metricName := "postgres_blocked_transaction"
  currentValue := 40
  threshold := 30
  severity := .critical
  description := "PostgreSQL database shop has 1 query blocked"
  serviceName := some "postgresql"
  resource := some "postgresql:shop"
  context := .locks ⟨"shop", [12], [11],
    [⟨12, "shop", "shop", "backend", "web", "active", "Lock:relation", 40,
      "unavailable", "UPDATE", 11, "admin", "psql", "local",
      "idle in transaction", none, 90, "unavailable", "LOCK"⟩]⟩

/-- Two applications, each with a database of its own. -/
def shopEdges : List DependencyEdge :=
  [⟨some "db", some "web"⟩, ⟨some "db2", some "web2"⟩]

/-- The minions of the first application. -/
def inShop (minion : String) : Bool :=
  minion = "web" || minion = "db"

theorem inShop_isComponent : IsComponent shopEdges inShop := by
  have hclosed : Closed shopEdges inShop := by
    rintro m m' ⟨edge, hedge, hpostgres, hapache⟩
    simp only [shopEdges, List.mem_cons, List.not_mem_nil, or_false] at hedge
    rcases hedge with rfl | rfl
    · obtain rfl := Option.some.inj hpostgres
      obtain rfl := Option.some.inj hapache
      rfl
    · obtain rfl := Option.some.inj hpostgres
      obtain rfl := Option.some.inj hapache
      rfl
  have hjoined : Joined shopEdges "db" "web" :=
    ⟨⟨some "db", some "web"⟩, by simp [shopEdges], rfl, rfl⟩
  refine @Closed.isComponent _ _ hclosed "db" rfl ?_
  intro other hother
  rw [inShop, Bool.or_eq_true, decide_eq_true_eq, decide_eq_true_eq] at hother
  rcases hother with rfl | rfl
  · exact Relation.EqvGen.rel "db" "web" hjoined
  · exact Relation.EqvGen.refl "db"

/-- The second application shows one symptom, or none, before the first one
shows both. -/
theorem correlation_local_of_undisturbed_shop :
    (outputs .plain shopEdges initial
        [([saturatedApache "web", saturatedApache "web2"], 0),
          ([saturatedApache "web", blockedBackend "db"], 60)]).map
        (restrict inShop) =
      (outputs .plain shopEdges initial
        [([saturatedApache "web"], 0),
          ([saturatedApache "web", blockedBackend "db"], 60)]).map
        (restrict inShop) := by
  apply correlation_local_of_undisturbed .plain shopEdges inShop
    inShop_isComponent
  · decide +kernel
  · decide +kernel
  · decide +kernel

/-- A chain of the second application releases a candidate of the first. -/
theorem foreign_chain_releases_candidate :
    ¬∀ (cfg : CorrelationSettings) (edges : List DependencyEdge)
      (inside : String → Bool), IsComponent edges inside →
      ∀ cycles cycles' : List (List Anomaly × ℚ),
        restrictCycles inside cycles = restrictCycles inside cycles' →
        (outputs cfg edges initial cycles).map (restrict inside) =
          (outputs cfg edges initial cycles').map (restrict inside) := by
  intro hall
  have hsame := hall .plain shopEdges inShop inShop_isComponent
    [([saturatedApache "web"], 0)]
    [([saturatedApache "web", saturatedApache "web2", blockedBackend "db2"],
      0)] (by decide +kernel)
  exact absurd hsame (by decide +kernel)

end DependencyCorrelationWindow

end UyuniAgent
