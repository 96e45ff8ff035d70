import UyuniAgent.Inventory.Attribution

/-!
# The order of listings

Prometheus lists its targets and Uyuni its systems in orders of their own, and
Python iterates a set in yet another one.  An index keeps the first target that
goes by a host name, and names of one length are tried in the order of a set.
-/

namespace UyuniAgent.Inventory

open Raising

/-! ## The name that is tried first -/

section Names

variable {known : String → Option String} {names : List String}

/-- The name that leads to the target is a longest one among the known names
of the system. -/
theorem NamedTarget.exists_longest {found : String}
    (h : NamedTarget known names found) :
    ∃ name ∈ names, known name = some found ∧
      ∀ other ∈ names, known other ≠ none → other.length ≤ name.length := by
  obtain ⟨before, name, after, hsplit, hfound, hbefore⟩ :=
    List.findSome?_eq_some_iff.mp h
  have hmem {other : String} : other ∈ names ↔
      other ∈ before ∨ other = name ∨ other ∈ after := by
    rw [← mem_searchOrder, hsplit, List.mem_append, List.mem_cons]
  have hsorted : (searchOrder names).Pairwise
      fun first second => second.length ≤ first.length := by
    have htotal : Std.Total fun first second : String =>
        second.length ≤ first.length :=
      ⟨fun first second => Nat.le_total second.length first.length⟩
    have htrans : IsTrans String fun first second =>
        second.length ≤ first.length :=
      ⟨fun _ _ _ hfirst hsecond => hsecond.trans hfirst⟩
    exact List.pairwise_insertionSort _ names
  rw [hsplit, List.pairwise_append, List.pairwise_cons] at hsorted
  obtain ⟨-, ⟨hafter, -⟩, -⟩ := hsorted
  refine ⟨name, hmem.mpr (.inr (.inl rfl)), hfound, ?_⟩
  intro other hother hknown
  rcases hmem.mp hother with hother | rfl | hother
  · exact absurd (hbefore other hother) hknown
  · exact le_rfl
  · exact hafter other hother

/-- Among known names of the greatest length the one that comes first is
tried first. -/
theorem namedTarget_of_first {name found : String}
    (hfound : known name = some found)
    (hlongest : ∀ other ∈ names, known other ≠ none →
      other.length ≤ name.length) :
    NamedTarget known (name :: names) found := by
  rw [NamedTarget, searchOrder, List.insertionSort_cons_eq_take_drop,
    List.findSome?_append]
  have hlonger : ((names.insertionSort fun first second =>
      second.length ≤ first.length).takeWhile fun other =>
        ¬other.length ≤ name.length).findSome? known = none := by
    rw [List.findSome?_eq_none_iff]
    intro other hother
    by_contra hknown
    have hmem := (List.mem_insertionSort _).mp
      ((List.takeWhile_prefix _).subset hother)
    have hlength := List.mem_takeWhile_imp hother
    simp only [decide_not, Bool.not_eq_true', decide_eq_false_iff_not]
      at hlength
    exact hlength (hlongest other hmem hknown)
  rw [hlonger, Option.none_or, List.findSome?_cons, hfound]

/-- A set that is iterated from one of its elements on. -/
def SetOrder.startingWith (name : String) : SetOrder where
  iterate items :=
    if name ∈ items then name :: items.dedup.erase name else items.dedup
  perm items := by
    split
    next hmem =>
      exact (List.perm_cons_erase (List.mem_dedup.mpr hmem)).symm
    next => exact List.Perm.refl _

end Names

/-! ## Answers over all arrangements -/

/-- What the index of a service may hold, over all orders of the targets: only
what some target goes by, something for every host name that a target goes by,
and in some order a given instance wherever a target of it goes by the name. -/
structure Arrangements (goesBy : String → String → Prop)
    (possible : Set (String → Option String)) : Prop where
  sound : ∀ known ∈ possible, ∀ host found,
    known host = some found → goesBy host found
  complete : ∀ known ∈ possible, ∀ host found,
    goesBy host found → known host ≠ none
  prefers : ∀ found, ∃ known ∈ possible, ∀ host,
    goesBy host found → known host = some found

/-- A longest one among the names of a system that a target goes by. -/
structure IsLongest (goesBy : String → String → Prop) (names : List String)
    (name : String) : Prop where
  mem : name ∈ names
  longest : ∀ other ∈ names, ∀ found, goesBy other found →
    other.length ≤ name.length

/-- Every host that shares a first label with the system has a target of the
instance, and there is such a host. -/
structure IsCommon (goesBy : String → String → Prop) (names : List String)
    (found : String) : Prop where
  exists_host : ∃ host, SharesLabel names host ∧ goesBy host found
  all_hosts : ∀ host other, SharesLabel names host → goesBy host other →
    goesBy host found

/-- The targets of the longest known names of a system have one instance, and
so have those of its first labels, unless no instance is common to the hosts
that share one.  A common instance may also be the label that stands in for a
missing target. -/
structure Unambiguous (config : InventoryConfig) (service : ExporterService)
    (goesBy : String → String → Prop) (minionId : String)
    (names : List String) : Prop where
  named : ∀ first second found other, IsLongest goesBy names first →
    IsLongest goesBy names second → goesBy first found →
    goesBy second other → other = found
  shared : (∀ name ∈ names, ∀ found, ¬goesBy name found) →
    ∀ found, IsCommon goesBy names found →
      (∀ host other, SharesLabel names host → goesBy host other →
        other = found) ∨
      service = .node ∧ found = expectedInstance config minionId ∧
        ∀ other, IsCommon goesBy names other → other = found

section Arrangements

variable {config : InventoryConfig} {service : ExporterService}
  {goesBy : String → String → Prop}
  {possible : Set (String → Option String)} {minionId : String}
  {names : List String} {known : String → Option String} {order : SetOrder}

theorem AnsweredBy.unique {found other : String}
    (hfound : AnsweredBy known names found)
    (hother : AnsweredBy known names other) : found = other := by
  rcases hfound with hfound | hfound
  · rcases hother with hother | hother
    · exact Option.some.inj (hfound.symm.trans hother)
    · rw [NamedTarget, searched_eq_none_iff.mpr hother.unknown] at hfound
      cases hfound
  · rcases hother with hother | hother
    · rw [NamedTarget, searched_eq_none_iff.mpr hfound.unknown] at hother
      cases hother
    · obtain ⟨host, hshares, hhost⟩ := hfound.shared
      exact hother.only host found hshares hhost

theorem Attributed.unique {found other : String}
    (hfound : Attributed config service known minionId names found)
    (hother : Attributed config service known minionId names other) :
    found = other := by
  rcases hfound with hfound | ⟨-, rfl, hfound⟩
  · rcases hother with hother | ⟨-, -, hother⟩
    · exact hfound.unique hother
    · exact absurd hfound (hother found)
  · rcases hother with hother | ⟨-, rfl, -⟩
    · exact absurd hother (hfound other)
    · rfl

theorem sharesLabel_iterate {host : String} :
    SharesLabel (order.iterate names) host ↔ SharesLabel names host := by
  simp [SharesLabel, SetOrder.mem_iterate]

theorem Arrangements.exists_goesBy_iff (h : Arrangements goesBy possible)
    (hknown : known ∈ possible) {host : String} :
    known host ≠ none ↔ ∃ found, goesBy host found := by
  constructor
  · intro hhost
    obtain ⟨found, hfound⟩ := Option.ne_none_iff_exists'.mp hhost
    exact ⟨found, h.sound known hknown host found hfound⟩
  · rintro ⟨found, hfound⟩
    exact h.complete known hknown host found hfound

theorem Arrangements.isLongest_of_named (h : Arrangements goesBy possible)
    (hknown : known ∈ possible) {found : String}
    (hnamed : NamedTarget known (order.iterate names) found) :
    ∃ name, IsLongest goesBy names name ∧ goesBy name found := by
  obtain ⟨name, hname, hfound, hlongest⟩ := hnamed.exists_longest
  refine ⟨name, ⟨SetOrder.mem_iterate.mp hname, ?_⟩,
    h.sound known hknown name found hfound⟩
  intro other hother instanceName hgoes
  exact hlongest other (SetOrder.mem_iterate.mpr hother)
    (h.complete known hknown other instanceName hgoes)

theorem Arrangements.exists_named (h : Arrangements goesBy possible)
    (hknown : known ∈ possible) (order : SetOrder)
    (hnames : ∃ name ∈ names, ∃ found, goesBy name found) :
    ∃ found, NamedTarget known (order.iterate names) found := by
  obtain ⟨name, hname, hgoes⟩ := hnames
  refine Option.ne_none_iff_exists'.mp fun hnone => ?_
  exact (h.exists_goesBy_iff hknown).mpr hgoes
    (searched_eq_none_iff.mp hnone name (SetOrder.mem_iterate.mpr hname))

/-- A longest name is tried first in some order of the names. -/
theorem Arrangements.named_of_isLongest (h : Arrangements goesBy possible)
    (hknown : known ∈ possible) {name found : String}
    (hlongest : IsLongest goesBy names name)
    (hfound : known name = some found) :
    NamedTarget known ((SetOrder.startingWith name).iterate names) found := by
  have hstart : (SetOrder.startingWith name).iterate names =
      name :: names.dedup.erase name := if_pos hlongest.mem
  rw [hstart]
  refine namedTarget_of_first hfound ?_
  intro other hother hgoes
  obtain ⟨instanceName, hinstance⟩ := (h.exists_goesBy_iff hknown).mp hgoes
  exact hlongest.longest other
    (List.mem_dedup.mp (List.mem_of_mem_erase hother)) instanceName hinstance

theorem Arrangements.isCommon_of_firstLabel (h : Arrangements goesBy possible)
    (hknown : known ∈ possible) {found : String}
    (hfirst : FirstLabelTarget known (order.iterate names) found) :
    IsCommon goesBy names found := by
  obtain ⟨host, hshares, hhost⟩ := hfirst.shared
  refine ⟨⟨host, sharesLabel_iterate.mp hshares,
    h.sound known hknown host found hhost⟩, ?_⟩
  intro host other hshares hgoes
  obtain ⟨instanceName, hinstance⟩ :=
    Option.ne_none_iff_exists'.mp (h.complete known hknown host other hgoes)
  obtain rfl := hfirst.only host instanceName
    (sharesLabel_iterate.mpr hshares) hinstance
  exact h.sound known hknown host instanceName hinstance

section Unnamed

variable (h : Arrangements goesBy possible) (hknown : known ∈ possible)
  (hnone : ∀ name ∈ names, ∀ found, ¬goesBy name found)
include h hknown hnone

theorem Arrangements.unknown_names :
    ∀ name ∈ order.iterate names, known name = none := by
  intro name hname
  by_contra hgoes
  obtain ⟨found, hfound⟩ := (h.exists_goesBy_iff hknown).mp hgoes
  exact hnone name (SetOrder.mem_iterate.mp hname) found hfound

theorem Arrangements.firstLabel_of_answered {found : String}
    (hanswer : AnsweredBy known (order.iterate names) found) :
    FirstLabelTarget known (order.iterate names) found := by
  rcases hanswer with hnamed | hfirst
  · obtain ⟨name, hlongest, hgoes⟩ := h.isLongest_of_named hknown hnamed
    exact absurd hgoes (hnone name hlongest.mem found)
  · exact hfirst

theorem Arrangements.firstLabel_of_only {found : String}
    (hcommon : IsCommon goesBy names found)
    (honly : ∀ host other, SharesLabel names host → goesBy host other →
      other = found) :
    FirstLabelTarget known (order.iterate names) found := by
  have honlyKnown : ∀ host other, SharesLabel (order.iterate names) host →
      known host = some other → other = found := fun host other hshares hhost =>
    honly host other (sharesLabel_iterate.mp hshares)
      (h.sound known hknown host other hhost)
  obtain ⟨host, hshares, hgoes⟩ := hcommon.exists_host
  obtain ⟨other, hother⟩ :=
    Option.ne_none_iff_exists'.mp (h.complete known hknown host found hgoes)
  have hlabel : SharesLabel (order.iterate names) host :=
    sharesLabel_iterate.mpr hshares
  obtain rfl := honlyKnown host other hlabel hother
  exact ⟨h.unknown_names hknown hnone, ⟨host, hlabel, hother⟩, honlyKnown⟩

/-- An instance that is preferred is found at every host where it is common. -/
theorem Arrangements.firstLabel_of_preferred {found : String}
    (hcommon : IsCommon goesBy names found)
    (hprefers : ∀ host, goesBy host found → known host = some found) :
    FirstLabelTarget known (order.iterate names) found := by
  obtain ⟨host, hshares, hgoes⟩ := hcommon.exists_host
  refine ⟨h.unknown_names hknown hnone,
    ⟨host, sharesLabel_iterate.mpr hshares, hprefers host hgoes⟩, ?_⟩
  intro host other hlabel hother
  have hgoes := hcommon.all_hosts host other (sharesLabel_iterate.mp hlabel)
    (h.sound known hknown host other hother)
  exact Option.some.inj (hother.symm.trans (hprefers host hgoes))

end Unnamed

/-- An unambiguous system is attributed the same instance in all
arrangements. -/
theorem Unambiguous.attributed (h : Arrangements goesBy possible)
    (hclear : Unambiguous config service goesBy minionId names)
    {known' : String → Option String} {order' : SetOrder}
    (hknown : known ∈ possible) (hknown' : known' ∈ possible) {found : String}
    (hfound : Attributed config service known minionId (order.iterate names)
      found) :
    Attributed config service known' minionId (order'.iterate names)
      found := by
  by_cases hnames : ∃ name ∈ names, ∃ found, goesBy name found
  · obtain ⟨first, hfirst⟩ := h.exists_named hknown order hnames
    obtain ⟨second, hsecond⟩ := h.exists_named hknown' order' hnames
    obtain rfl := hfound.unique (.inl (.inl hfirst))
    obtain ⟨name, hlongest, hgoes⟩ := h.isLongest_of_named hknown hfirst
    obtain ⟨other, hlongest', hgoes'⟩ := h.isLongest_of_named hknown' hsecond
    obtain rfl :=
      hclear.named name other found second hlongest hlongest' hgoes hgoes'
    exact .inl (.inl hsecond)
  · have hnone : ∀ name ∈ names, ∀ found, ¬goesBy name found :=
      fun name hname found hgoes => hnames ⟨name, hname, found, hgoes⟩
    rcases hfound with hanswer | ⟨hservice, hexpected, hmissing⟩
    · have hcommon := h.isCommon_of_firstLabel hknown
        (h.firstLabel_of_answered hknown hnone hanswer)
      rcases hclear.shared hnone found hcommon with
        honly | ⟨hservice, hexpected, honly⟩
      · exact .inl (.inr (h.firstLabel_of_only hknown' hnone hcommon honly))
      · by_cases hanswers : ∃ other,
          AnsweredBy known' (order'.iterate names) other
        · obtain ⟨other, hother⟩ := hanswers
          obtain rfl := honly other (h.isCommon_of_firstLabel hknown'
            (h.firstLabel_of_answered hknown' hnone hother))
          exact .inl hother
        · exact .inr ⟨hservice, hexpected, not_exists.mp hanswers⟩
    · by_cases hanswers : ∃ other,
        AnsweredBy known' (order'.iterate names) other
      · obtain ⟨other, hother⟩ := hanswers
        have hcommon := h.isCommon_of_firstLabel hknown'
          (h.firstLabel_of_answered hknown' hnone hother)
        rcases hclear.shared hnone other hcommon with honly | ⟨-, hsame, -⟩
        · exact absurd
            (.inr (h.firstLabel_of_only hknown hnone hcommon honly))
            (hmissing other)
        · rw [hexpected, ← hsame]
          exact .inl hother
      · exact .inr ⟨hservice, hexpected, not_exists.mp hanswers⟩

/-- All arrangements attribute one instance to a system only when it is
unambiguous. -/
theorem Arrangements.unambiguous (h : Arrangements goesBy possible)
    (hsame : ∀ order order' : SetOrder, ∀ known ∈ possible,
      ∀ known' ∈ possible, ∀ found,
        Attributed config service known minionId (order.iterate names) found →
        Attributed config service known' minionId (order'.iterate names)
          found) :
    Unambiguous config service goesBy minionId names := by
  constructor
  · intro first second found other hfirst hsecond hfound hother
    obtain ⟨known, hknown, hprefers⟩ := h.prefers found
    obtain ⟨known', hknown', hprefers'⟩ := h.prefers other
    have hnamed := h.named_of_isLongest hknown hfirst (hprefers first hfound)
    have hnamed' :=
      h.named_of_isLongest hknown' hsecond (hprefers' second hother)
    have hmoved := hsame _ (SetOrder.startingWith second) known hknown known'
      hknown' found (.inl (.inl hnamed))
    exact Attributed.unique (.inl (.inl hnamed')) hmoved
  · intro hnone found hcommon
    obtain ⟨known, hknown, hprefers⟩ := h.prefers found
    have hfirst : FirstLabelTarget known (SetOrder.firstSeen.iterate names)
        found := h.firstLabel_of_preferred hknown hnone hcommon hprefers
    by_cases honly : ∀ host other, SharesLabel names host →
      goesBy host other → other = found
    · exact .inl honly
    · simp only [not_forall] at honly
      obtain ⟨host, other, hshares, hgoes, hne⟩ := honly
      obtain ⟨known', hknown', hprefers'⟩ := h.prefers other
      have hmoved := hsame _ .firstSeen known hknown known' hknown' found
        (.inl (.inr hfirst))
      rcases hmoved with hanswer | ⟨hservice, hexpected, -⟩
      · have hfirst' := h.firstLabel_of_answered hknown' hnone hanswer
        exact absurd (hfirst'.only host other
          (sharesLabel_iterate.mpr hshares) (hprefers' host hgoes)) hne
      · refine .inr ⟨hservice, hexpected, ?_⟩
        intro third hthird
        obtain ⟨known'', hknown'', hprefers''⟩ := h.prefers third
        have hfirst'' : FirstLabelTarget known''
            (SetOrder.firstSeen.iterate names) third :=
          h.firstLabel_of_preferred hknown'' hnone hthird hprefers''
        have hmoved := hsame _ .firstSeen known'' hknown'' known hknown third
          (.inl (.inr hfirst''))
        exact hmoved.unique (.inl (.inr hfirst))

end Arrangements

section Model

variable (py : Interpreter) (unicode : UnicodeText) (order : SetOrder)
  (config : InventoryConfig)

/-! ## The orders of the targets -/

/-- A target of the service goes by the host name, and has this instance. -/
def GoesBy (targets : List JsonObject) (service : ExporterService)
    (host found : String) : Prop :=
  ∃ target ∈ targets,
    instanceFor py unicode config service host target = some found

/-- What the index of a service may hold. -/
def possibleIndexes (targets : List JsonObject) (service : ExporterService) :
    Set (String → Option String) :=
  {known | ∃ arranged : List JsonObject, arranged.Perm targets ∧
    known = knownAs py unicode config arranged service}

variable {py unicode order config}

/-- The targets of the instance come first. -/
theorem knownAs_preferring {targets : List JsonObject}
    {service : ExporterService} {host found : String}
    {offers : JsonObject → Bool}
    (hoffers : ∀ target, offers target = true ↔
      (targetExporter py unicode config target).map Prod.snd = some found)
    (hgoes : GoesBy py unicode config targets service host found) :
    knownAs py unicode config
      (targets.filter offers ++ targets.filter fun target => !offers target)
      service host = some found := by
  obtain ⟨target, htarget, hfound⟩ := hgoes
  have hmem : target ∈ targets.filter offers := by
    refine List.mem_filter.mpr ⟨htarget, (hoffers target).mpr ?_⟩
    rw [targetExporter_of_instanceFor hfound]
    rfl
  have hfirst : (targets.filter offers).findSome?
      (instanceFor py unicode config service host) = some found := by
    rcases hsearch : (targets.filter offers).findSome?
      (instanceFor py unicode config service host) with _ | other
    · rw [List.findSome?_eq_none_iff.mp hsearch target hmem] at hfound
      cases hfound
    · obtain ⟨first, hmem', hother⟩ :=
        List.exists_of_findSome?_eq_some hsearch
      have hsame := (hoffers first).mp (List.mem_filter.mp hmem').2
      rw [targetExporter_of_instanceFor hother] at hsame
      exact hsame
  rw [knownAs, List.findSome?_append, hfirst]
  rfl

theorem arrangements (targets : List JsonObject) (service : ExporterService) :
    Arrangements (GoesBy py unicode config targets service)
      (possibleIndexes py unicode config targets service) where
  sound := by
    rintro known ⟨arranged, hperm, rfl⟩ host found hfound
    obtain ⟨target, htarget, hinstance⟩ :=
      List.exists_of_findSome?_eq_some hfound
    exact ⟨target, hperm.mem_iff.mp htarget, hinstance⟩
  complete := by
    rintro known ⟨arranged, hperm, rfl⟩ host found ⟨target, htarget, hfound⟩
      hnone
    rw [List.findSome?_eq_none_iff.mp hnone target
      (hperm.mem_iff.mpr htarget)] at hfound
    cases hfound
  prefers := by
    intro found
    let offers : JsonObject → Bool := fun target =>
      (targetExporter py unicode config target).map Prod.snd = some found
    refine ⟨_, ⟨_, List.filter_append_perm offers targets, rfl⟩, ?_⟩
    intro host hgoes
    exact knownAs_preferring (by simp [offers]) hgoes

/-! ## When an inventory is returned -/

section Returns

/-- The host names of a target of a configured job can be normalized. -/
def IsReadableTarget (py : Interpreter) (unicode : UnicodeText)
    (config : InventoryConfig) (target : JsonObject) : Prop :=
  ∀ service instanceName,
    targetExporter py unicode config target = some (service, instanceName) →
      Returns (targetAliases py unicode target instanceName)

theorem targetIndexes_returns_iff {targets : List JsonObject} :
    Returns (targetIndexes py unicode order config targets) ↔
      ∀ target ∈ targets, IsReadableTarget py unicode config target := by
  have hround : ∀ indexes target,
      Returns (addTarget py unicode order config indexes target) ↔
        IsReadableTarget py unicode config target := by
    intro indexes target
    rcases hexporter : targetExporter py unicode config target with
      _ | ⟨service, instanceName⟩
    · simp [addTarget, IsReadableTarget, hexporter, Returns]
    · simp only [addTarget, hexporter]
      rw [returns_bind_iff]
      constructor
      · rintro ⟨aliases, haliases, -⟩ offered other hoffered
        rw [hexporter] at hoffered
        obtain ⟨-, rfl⟩ := Prod.mk.inj (Option.some.inj hoffered)
        exact ⟨aliases, haliases⟩
      · intro hreadable
        obtain ⟨aliases, haliases⟩ := hreadable service instanceName hexporter
        exact ⟨aliases, haliases, returns_ok _⟩
  have hrounds : ∀ indexes,
      Returns (targets.foldlM (addTarget py unicode order config) indexes) ↔
        ∀ target ∈ targets, IsReadableTarget py unicode config target := by
    induction targets with
    | nil => simp [Returns, pure, Except.pure]
    | cons target targets ih =>
        intro indexes
        rw [List.foldlM_cons, returns_bind_iff, List.forall_mem_cons,
          ← hround indexes target]
        constructor
        · rintro ⟨next, hnext, hrest⟩
          exact ⟨⟨next, hnext⟩, (ih next).mp hrest⟩
        · rintro ⟨⟨next, hnext⟩, hrest⟩
          exact ⟨next, hnext, (ih next).mpr hrest⟩
  exact hrounds _

/-- The normalized names of a system, which may be equal. -/
def hostNames (py : Interpreter) (unicode : UnicodeText)
    (system : JsonObject) : Except PyException (List String) := do
  let names := [← normalizedHost py unicode (.str (systemMinionId py system)),
    ← normalizedHost py unicode (.str (systemName py system))]
  return names.filter (· ≠ "")

theorem systemNames_eq (system : JsonObject) :
    systemNames py unicode order system =
      (hostNames py unicode system).map order.iterate := by
  rw [systemNames, hostNames]
  rcases normalizedHost py unicode (.str (systemMinionId py system)) with
    e | first
  · rfl
  · rcases normalizedHost py unicode (.str (systemName py system)) with
      e | second
    · rfl
    · rfl

/-- A system with a minion ID and with names that can be normalized. -/
structure IsReadableSystem (py : Interpreter) (unicode : UnicodeText)
    (system : JsonObject) : Prop where
  usable : systemMinionId py system ≠ ""
  names : Returns (hostNames py unicode system)

/-- The minion of a readable system. -/
def systemMinion (py : Interpreter) (unicode : UnicodeText)
    (order : SetOrder) (config : InventoryConfig) (indexes : Indexes)
    (system : JsonObject) : Minion :=
  minionOf order config indexes (systemMinionId py system)
    (namesOf py unicode order system)

theorem namesOf_of_hostNames {system : JsonObject} {names : List String}
    (h : hostNames py unicode system = .ok names) :
    namesOf py unicode order system = order.iterate names := by
  refine namesOf_eq ?_
  rw [systemNames_eq, h]
  rfl

theorem addSystem_eq_ok_iff {indexes : Indexes} {minions next : List Minion}
    {system : JsonObject}
    (hnew : systemMinionId py system ∉ minions.map (·.id)) :
    addSystem py unicode order config indexes minions system = .ok next ↔
      IsReadableSystem py unicode system ∧
        next = minions ++
          [systemMinion py unicode order config indexes system] := by
  constructor
  · intro h
    have husable : systemMinionId py system ≠ "" := by
      intro hempty
      rw [addSystem, if_pos hempty] at h
      cases h
    obtain ⟨minion, rfl, names, hnames, rfl⟩ := addSystem_eq_ok h
    rcases hhosts : hostNames py unicode system with e | hosts
    · rw [systemNames_eq, hhosts] at hnames
      cases hnames
    · rw [systemMinion, namesOf_eq hnames]
      exact ⟨⟨husable, hosts, hhosts⟩, rfl⟩
  · rintro ⟨⟨husable, hosts, hhosts⟩, rfl⟩
    have hnames : systemNames py unicode order system =
        .ok (order.iterate hosts) := by
      rw [systemNames_eq, hhosts]
      rfl
    rw [addSystem, if_neg husable, if_neg hnew, hnames, systemMinion,
      namesOf_eq hnames]

theorem foldlM_addSystem_eq_ok_iff {indexes : Indexes}
    {systems : List JsonObject} {minions final : List Minion}
    (hids : (minions.map (·.id) ++ systems.map (systemMinionId py)).Nodup) :
    systems.foldlM (addSystem py unicode order config indexes) minions =
        .ok final ↔
      (∀ system ∈ systems, IsReadableSystem py unicode system) ∧
        final = minions ++ systems.map
          (systemMinion py unicode order config indexes) := by
  induction systems generalizing minions with
  | nil => simp [pure, Except.pure, eq_comm]
  | cons system systems ih =>
      rw [List.map_cons] at hids
      have hnew : systemMinionId py system ∉ minions.map (·.id) := fun hmem =>
        (List.nodup_append.mp hids).2.2 _ hmem _ List.mem_cons_self rfl
      have hrest : (((minions ++
          [systemMinion py unicode order config indexes system]).map (·.id)) ++
            systems.map (systemMinionId py)).Nodup := by
        rw [List.map_append, List.append_assoc]
        exact hids
      rw [List.foldlM_cons, bind_eq_ok_iff, List.forall_mem_cons]
      constructor
      · rintro ⟨next, hnext, hfinal⟩
        obtain ⟨hreadable, rfl⟩ := (addSystem_eq_ok_iff hnew).mp hnext
        obtain ⟨hothers, rfl⟩ := (ih hrest).mp hfinal
        refine ⟨⟨hreadable, hothers⟩, ?_⟩
        rw [List.append_assoc, List.map_cons, List.singleton_append]
      · rintro ⟨⟨hreadable, hothers⟩, rfl⟩
        refine ⟨_, (addSystem_eq_ok_iff hnew).mpr ⟨hreadable, rfl⟩,
          (ih hrest).mpr ⟨hothers, ?_⟩⟩
        rw [List.append_assoc, List.map_cons, List.singleton_append]

theorem buildMinionInventory_eq_ok_iff {systems targets : List JsonObject}
    {inventory : List Minion}
    (hids : (systems.map (systemMinionId py)).Nodup) :
    buildMinionInventory py unicode order config systems targets =
        .ok inventory ↔
      (∀ system ∈ systems, IsReadableSystem py unicode system) ∧
        ∃ indexes, targetIndexes py unicode order config targets =
            .ok indexes ∧
          inventory = (systems.map
            (systemMinion py unicode order config indexes)).insertionSort
              fun first second => first.id ≤ second.id := by
  rcases hindexes : targetIndexes py unicode order config targets with
    e | indexes
  · simp [buildMinionInventory, hindexes]
  · have hnone : (([] : List Minion).map (·.id) ++
        systems.map (systemMinionId py)).Nodup := hids
    simp only [buildMinionInventory, hindexes, bind_eq_ok_iff,
      foldlM_addSystem_eq_ok_iff hnone, List.nil_append]
    constructor
    · rintro ⟨minions, ⟨hreadable, rfl⟩, hsorted⟩
      exact ⟨hreadable, indexes, rfl, (Except.ok.inj hsorted).symm⟩
    · rintro ⟨hreadable, _, hsame, rfl⟩
      obtain rfl := Except.ok.inj hsame
      exact ⟨_, ⟨hreadable, rfl⟩, rfl⟩

end Returns

/-! ## The same inventory in every order -/

/-- Minions with different IDs are sorted in one way. -/
theorem insertionSort_eq_of_perm {minions others : List Minion}
    (hperm : minions.Perm others) (hids : (minions.map (·.id)).Nodup) :
    (minions.insertionSort fun first second => first.id ≤ second.id) =
      others.insertionSort fun first second => first.id ≤ second.id := by
  have htotal : Std.Total fun first second : Minion =>
      first.id ≤ second.id :=
    ⟨fun first second => String.le_total first.id second.id⟩
  have htrans : IsTrans Minion fun first second => first.id ≤ second.id :=
    ⟨fun _ _ _ hfirst hsecond => String.le_trans hfirst hsecond⟩
  refine List.Perm.eq_of_pairwise ?_ (List.pairwise_insertionSort _ minions)
    (List.pairwise_insertionSort _ others) ?_
  · intro first second hfirst hsecond hle hge
    exact List.inj_on_of_nodup_map hids
      ((List.mem_insertionSort _).mp hfirst)
      (hperm.mem_iff.mpr ((List.mem_insertionSort _).mp hsecond))
      (String.le_antisymm hle hge)
  · exact ((List.perm_insertionSort _ minions).trans hperm).trans
      (List.perm_insertionSort _ others).symm

theorem minion_ext {first second : Minion} (hid : first.id = second.id)
    (hinstances : ∀ service, instanceOf service first =
      instanceOf service second) : first = second := by
  rcases first with ⟨id, node, apache, postgres⟩
  rcases second with ⟨id', node', apache', postgres'⟩
  obtain rfl : id = id' := hid
  obtain rfl : node = node' := Option.some.inj (hinstances .node)
  obtain rfl : apache = apache' := hinstances .apache
  obtain rfl : postgres = postgres' := hinstances .postgres
  rfl

theorem instanceOf_systemMinion {indexes : Indexes}
    {targets : List JsonObject} {system : JsonObject} {names : List String}
    (hindexes : targetIndexes py unicode order config targets = .ok indexes)
    (hnames : hostNames py unicode system = .ok names)
    (service : ExporterService) (found : String) :
    instanceOf service
        (systemMinion py unicode order config indexes system) = some found ↔
      Attributed config service (knownAs py unicode config targets service)
        (systemMinionId py system) (order.iterate names) found := by
  rw [systemMinion, namesOf_of_hostNames hnames]
  refine instanceOf_minionOf ?_ ?_
  · funext host
    exact targetIndexes_spec hindexes service host
  · intro host other hother
    exact (mem_discoveredInstances hother).2

theorem map_id_systemMinion (indexes : Indexes) (systems : List JsonObject) :
    (systems.map (systemMinion py unicode order config indexes)).map (·.id) =
      systems.map (systemMinionId py) := by
  rw [List.map_map]
  rfl

/-- Nothing of the inventory depends on the orders of the systems, of the
targets, and of the sets. -/
def IsOrderIndependent (py : Interpreter) (unicode : UnicodeText)
    (config : InventoryConfig) (systems targets : List JsonObject) : Prop :=
  ∀ (order order' : SetOrder) (arrangedSystems arrangedTargets :
    List JsonObject), arrangedSystems.Perm systems →
    arrangedTargets.Perm targets → ∀ inventory,
      buildMinionInventory py unicode order config systems targets =
          .ok inventory ↔
        buildMinionInventory py unicode order' config arrangedSystems
          arrangedTargets = .ok inventory

/-- What the names of every system lead to is unambiguous for every
service. -/
def AllUnambiguous (py : Interpreter) (unicode : UnicodeText)
    (config : InventoryConfig) (systems targets : List JsonObject) : Prop :=
  ∀ system ∈ systems, ∀ names, hostNames py unicode system = .ok names →
    ∀ service, Unambiguous config service
      (GoesBy py unicode config targets service) (systemMinionId py system)
      names

section Arranged

variable {systems systems' targets targets' base : List JsonObject}

theorem buildMinionInventory_of_unambiguous
    {order' : SetOrder} {inventory : List Minion}
    (hids : (systems.map (systemMinionId py)).Nodup)
    (hsystems : systems'.Perm systems) (htargets : targets.Perm base)
    (htargets' : targets'.Perm base)
    (hclear : AllUnambiguous py unicode config systems base)
    (hreadable : ∀ target ∈ base, IsReadableTarget py unicode config target)
    (h : buildMinionInventory py unicode order config systems targets =
      .ok inventory) :
    buildMinionInventory py unicode order' config systems' targets' =
      .ok inventory := by
  have hids' : (systems'.map (systemMinionId py)).Nodup :=
    (hsystems.map _).nodup_iff.mpr hids
  obtain ⟨husable, indexes, hindexes, rfl⟩ :=
    (buildMinionInventory_eq_ok_iff hids).mp h
  obtain ⟨indexes', hindexes'⟩ : Returns
      (targetIndexes py unicode order' config targets') :=
    targetIndexes_returns_iff.mpr fun target htarget =>
      hreadable target (htargets'.mem_iff.mp htarget)
  have hsame : ∀ system ∈ systems,
      systemMinion py unicode order config indexes system =
        systemMinion py unicode order' config indexes' system := by
    intro system hsystem
    obtain ⟨names, hnames⟩ := (husable system hsystem).names
    refine minion_ext rfl fun service => Option.ext fun found => ?_
    rw [instanceOf_systemMinion hindexes hnames,
      instanceOf_systemMinion hindexes' hnames]
    have hsystemClear := hclear system hsystem names hnames service
    constructor
    · exact hsystemClear.attributed (arrangements base service)
        ⟨targets, htargets, rfl⟩ ⟨targets', htargets', rfl⟩
    · exact hsystemClear.attributed (arrangements base service)
        ⟨targets', htargets', rfl⟩ ⟨targets, htargets, rfl⟩
  refine (buildMinionInventory_eq_ok_iff hids').mpr
    ⟨?_, indexes', hindexes', ?_⟩
  · intro system hsystem
    exact husable system (hsystems.mem_iff.mp hsystem)
  · rw [List.map_congr_left hsame]
    refine insertionSort_eq_of_perm (hsystems.symm.map _) ?_
    rw [map_id_systemMinion]
    exact hids

/-- Equal inventories hold equal minions for each system. -/
theorem systemMinion_eq_of_sorted_eq {order' : SetOrder}
    {indexes indexes' : Indexes}
    (hids : (systems.map (systemMinionId py)).Nodup)
    (h : ((systems.map
        (systemMinion py unicode order config indexes)).insertionSort
          fun first second => first.id ≤ second.id) =
      (systems.map
        (systemMinion py unicode order' config indexes')).insertionSort
          fun first second => first.id ≤ second.id)
    {system : JsonObject} (hsystem : system ∈ systems) :
    systemMinion py unicode order config indexes system =
      systemMinion py unicode order' config indexes' system := by
  have hmem : systemMinion py unicode order config indexes system ∈
      systems.map (systemMinion py unicode order' config indexes') := by
    rw [← List.mem_insertionSort fun first second : Minion =>
      first.id ≤ second.id, ← h, List.mem_insertionSort]
    exact List.mem_map_of_mem hsystem
  obtain ⟨other, hother, hsame⟩ := List.mem_map.mp hmem
  have hid : systemMinionId py other = systemMinionId py system :=
    congrArg (·.id) hsame
  obtain rfl := List.inj_on_of_nodup_map hids hother hsystem hid
  exact hsame.symm

end Arranged

/-- An inventory that can be built does not depend on any order exactly when
the names of every system are unambiguous for every service. -/
theorem order_independent_iff {systems targets : List JsonObject}
    (hids : (systems.map (systemMinionId py)).Nodup) :
    IsOrderIndependent py unicode config systems targets ↔
      ((∀ target ∈ targets, IsReadableTarget py unicode config target) →
        (∀ system ∈ systems, IsReadableSystem py unicode system) →
        AllUnambiguous py unicode config systems targets) := by
  constructor
  · intro h hreadable husable system hsystem names hnames service
    refine (arrangements targets service).unambiguous ?_
    rintro order order' known ⟨arranged, hperm, rfl⟩ known'
      ⟨arranged', hperm', rfl⟩ found
    obtain ⟨indexes, hindexes⟩ : Returns
        (targetIndexes py unicode order config arranged) :=
      targetIndexes_returns_iff.mpr fun target htarget =>
        hreadable target (hperm.mem_iff.mp htarget)
    obtain ⟨indexes', hindexes'⟩ : Returns
        (targetIndexes py unicode order' config arranged') :=
      targetIndexes_returns_iff.mpr fun target htarget =>
        hreadable target (hperm'.mem_iff.mp htarget)
    have hbuilt := (buildMinionInventory_eq_ok_iff hids).mpr
      ⟨husable, indexes, hindexes, rfl⟩
    have hbuilt' := (buildMinionInventory_eq_ok_iff hids).mpr
      ⟨husable, indexes', hindexes', rfl⟩
    have hbase :=
      (h order order systems arranged (List.Perm.refl _) hperm _).mpr hbuilt
    have hmoved :=
      (h order order' systems arranged' (List.Perm.refl _) hperm' _).mp hbase
    have hminion := systemMinion_eq_of_sorted_eq hids
      (Except.ok.inj (hmoved.symm.trans hbuilt')) hsystem
    rw [← instanceOf_systemMinion hindexes hnames,
      ← instanceOf_systemMinion hindexes' hnames, hminion]
    exact id
  · intro h order order' systems' targets' hsystems htargets inventory
    have hids' : (systems'.map (systemMinionId py)).Nodup :=
      (hsystems.map _).nodup_iff.mpr hids
    constructor
    · intro hbuilt
      obtain ⟨husable, indexes, hindexes, -⟩ :=
        (buildMinionInventory_eq_ok_iff hids).mp hbuilt
      have hreadable := targetIndexes_returns_iff.mp ⟨indexes, hindexes⟩
      exact buildMinionInventory_of_unambiguous hids hsystems
        (List.Perm.refl targets) htargets (h hreadable husable) hreadable
        hbuilt
    · intro hbuilt
      obtain ⟨husable', indexes, hindexes, -⟩ :=
        (buildMinionInventory_eq_ok_iff hids').mp hbuilt
      have hreadable : ∀ target ∈ targets,
          IsReadableTarget py unicode config target := fun target htarget =>
        targetIndexes_returns_iff.mp ⟨indexes, hindexes⟩ target
          (htargets.mem_iff.mpr htarget)
      have husable : ∀ system ∈ systems, IsReadableSystem py unicode system :=
        fun system hsystem => husable' system (hsystems.mem_iff.mpr hsystem)
      have hclear : AllUnambiguous py unicode config systems' targets :=
        fun system hsystem =>
          h hreadable husable system (hsystems.mem_iff.mp hsystem)
      exact buildMinionInventory_of_unambiguous hids' hsystems.symm htargets
        (List.Perm.refl targets) hclear hreadable hbuilt

end Model

theorem order_independent_one_target :
    IsOrderIndependent ordinaryInterpreter .ascii ordinaryConfig
      [registered "web.example", registered "db.example"]
      [nodeTarget "web.example:9100"] := by
  refine (order_independent_iff (by decide +kernel)).mpr ?_
  intro _ _ system _ names _ service
  have honly : ∀ host found host' other,
      GoesBy ordinaryInterpreter .ascii ordinaryConfig
        [nodeTarget "web.example:9100"] service host found →
      GoesBy ordinaryInterpreter .ascii ordinaryConfig
        [nodeTarget "web.example:9100"] service host' other →
      other = found := by
    rintro host found host' other ⟨target, htarget, hfound⟩
      ⟨target', htarget', hother⟩
    obtain rfl := List.mem_singleton.mp htarget
    obtain rfl := List.mem_singleton.mp htarget'
    have hsame := (targetExporter_of_instanceFor hother).symm.trans
      (targetExporter_of_instanceFor hfound)
    exact (Prod.mk.inj (Option.some.inj hsame)).2
  constructor
  · intro first second found other _ _ hfound hother
    exact honly first found second other hfound hother
  · intro _ found hcommon
    obtain ⟨host, -, hfound⟩ := hcommon.exists_host
    refine .inl fun host' other _ hother => ?_
    exact honly host found host' other hfound hother

/-- Of two exporters on one host the one that is listed first is chosen. -/
theorem first_listed_exporter_is_chosen :
    ¬∀ (py : Interpreter) (unicode : UnicodeText) (config : InventoryConfig)
      (systems targets : List JsonObject),
      (systems.map (systemMinionId py)).Nodup →
        IsOrderIndependent py unicode config systems targets := by
  intro hall
  have hids : ([registered "web"].map
      (systemMinionId ordinaryInterpreter)).Nodup :=
    List.nodup_singleton _
  have hfirst : buildMinionInventory ordinaryInterpreter .ascii .firstSeen
      ordinaryConfig [registered "web"]
      [nodeTarget "web:9100", nodeTarget "web:9101"] =
        .ok [⟨"web", "web:9100", none, none⟩] := by
    decide +kernel
  have hswapped : buildMinionInventory ordinaryInterpreter .ascii .firstSeen
      ordinaryConfig [registered "web"]
      [nodeTarget "web:9101", nodeTarget "web:9100"] =
        .ok [⟨"web", "web:9101", none, none⟩] := by
    decide +kernel
  have hsame := (hall ordinaryInterpreter .ascii ordinaryConfig _ _ hids
    .firstSeen .firstSeen _ [nodeTarget "web:9101", nodeTarget "web:9100"]
    (List.Perm.refl _) (List.Perm.swap _ _ _) _).mp hfirst
  rw [hswapped] at hsame
  revert hsame
  decide

end UyuniAgent.Inventory
