import UyuniAgent.Detector.Prometheus
import UyuniAgent.Inventory.Targets

/-!
# Attribution of exporter targets to minions

`build_minion_inventory` looks up every system on its own, so that two systems
with different names can end up with one exporter instance.  The lookup by
first labels does this on ordinary host names; the theorem of this module lists
all the ways in which it can happen.
-/

namespace UyuniAgent.Inventory

open Raising

inductive InventoryException
  | valueError
  | inventoryError (message : String)
  deriving DecidableEq, Repr

section Model

variable (py : Interpreter) (unicode : UnicodeText) (order : SetOrder)
  (config : InventoryConfig)

/-! ## Systems -/

def systemName (system : JsonObject) : String :=
  PyText.strip (((system.lookup "name").getD (.str "")).toStr py)

def systemMinionId (system : JsonObject) : String :=
  PyText.strip ((either (PyValue.get system "minion_id")
    (.str (systemName py system))).toStr py)

def systemNames (system : JsonObject) : Except PyException (List String) := do
  let names := [← normalizedHost py unicode (.str (systemMinionId py system)),
    ← normalizedHost py unicode (.str (systemName py system))]
  return order.iterate (names.filter (· ≠ ""))

/-- The node-exporter label that stands in for a missing target. -/
def expectedInstance (minionId : String) : String :=
  minionId ++ ":" ++ toString config.nodeExporterPort

def minionOf (indexes : Indexes) (minionId : String) (names : List String) :
    Minion where
  id := minionId
  instanceName := (present (findTarget order (indexes .node) names)).getD
    (expectedInstance config minionId)
  apacheInstance := present (findTarget order (indexes .apache) names)
  postgresInstance := present (findTarget order (indexes .postgres) names)

/-- One round of `build_minion_inventory`; the identifiers seen so far are
those of the minions found so far. -/
def addSystem (indexes : Indexes) (minions : List Minion)
    (system : JsonObject) : Except InventoryException (List Minion) :=
  let minionId := systemMinionId py system
  if minionId = "" then
    .error (.inventoryError "Uyuni system has no usable minion ID")
  else if minionId ∈ minions.map (·.id) then
    .error (.inventoryError ("duplicate Uyuni minion ID: " ++ minionId))
  else
    match systemNames py unicode order system with
    | .error _ => .error .valueError
    | .ok names =>
        .ok (minions ++ [minionOf order config indexes minionId names])

def buildMinionInventory (systems targets : List JsonObject) :
    Except InventoryException (List Minion) :=
  match targetIndexes py unicode order config targets with
  | .error _ => .error .valueError
  | .ok indexes => do
      let minions ←
        systems.foldlM (addSystem py unicode order config indexes) []
      return minions.insertionSort fun first second => first.id ≤ second.id

/-! ## Attribution -/

/-- The exporter instance of a minion that belongs to the service. -/
def instanceOf (service : ExporterService) (minion : Minion) :
    Option String :=
  match service with
  | .node => some minion.instanceName
  | .apache => minion.apacheInstance
  | .postgres => minion.postgresInstance

/-- The instance labels of the targets of the service. -/
def discoveredInstances (targets : List JsonObject)
    (service : ExporterService) : List String :=
  (targets.filterMap (targetExporter py unicode config)).filterMap
    fun exporter =>
      if exporter.1 = service then some exporter.2 else none

/-- No discovered instance of a service is given to two minions. -/
def AttributesOnce (targets : List JsonObject) (inventory : List Minion) :
    Prop :=
  ∀ first ∈ inventory, ∀ second ∈ inventory, first.id ≠ second.id →
    ∀ service, ∀ found ∈ discoveredInstances py unicode config targets service,
      ¬(instanceOf service first = some found ∧
        instanceOf service second = some found)

variable {py unicode order config}

theorem mem_discoveredInstances {targets : List JsonObject}
    {service : ExporterService} {host found : String}
    (h : knownAs py unicode config targets service host = some found) :
    found ∈ discoveredInstances py unicode config targets service ∧
      found ≠ "" := by
  obtain ⟨target, htarget, hfound⟩ := List.exists_of_findSome?_eq_some h
  have hexporter := targetExporter_of_instanceFor hfound
  constructor
  · apply List.mem_filterMap.mpr
    exact ⟨(service, found),
      List.mem_filterMap.mpr ⟨target, htarget, hexporter⟩, if_pos rfl⟩
  · simp only [targetExporter] at hexporter
    split at hexporter
    next => cases hexporter
    next =>
      rw [Option.ite_none_left_eq_some] at hexporter
      obtain ⟨hne, hpair⟩ := hexporter
      obtain ⟨-, rfl⟩ := Prod.mk.inj (Option.some.inj hpair)
      exact hne

/-! ## The minions of an inventory -/

/-- The minion that the inventory holds for a system. -/
def IsMinionOf (py : Interpreter) (unicode : UnicodeText) (order : SetOrder)
    (config : InventoryConfig) (indexes : Indexes) (system : JsonObject)
    (minion : Minion) : Prop :=
  ∃ names, systemNames py unicode order system = .ok names ∧
    minion = minionOf order config indexes (systemMinionId py system) names

theorem addSystem_eq_ok {indexes : Indexes} {minions next : List Minion}
    {system : JsonObject}
    (h : addSystem py unicode order config indexes minions system = .ok next) :
    ∃ minion, next = minions ++ [minion] ∧
      IsMinionOf py unicode order config indexes system minion := by
  simp only [addSystem] at h
  split at h
  next => cases h
  next =>
    split at h
    next => cases h
    next =>
      split at h
      next => cases h
      next names hnames =>
        obtain rfl := Except.ok.inj h
        exact ⟨_, rfl, names, hnames, rfl⟩

theorem mem_foldlM_addSystem {indexes : Indexes} {systems : List JsonObject}
    {minions final : List Minion}
    (h : systems.foldlM (addSystem py unicode order config indexes) minions =
      .ok final) (minion : Minion) :
    minion ∈ final ↔ minion ∈ minions ∨ ∃ system ∈ systems,
      IsMinionOf py unicode order config indexes system minion := by
  induction systems generalizing minions with
  | nil =>
      obtain rfl := Except.ok.inj h
      simp
  | cons system systems ih =>
      obtain ⟨next, hnext, hrest⟩ := bind_eq_ok_iff.mp h
      obtain ⟨added, rfl, names, hnames, rfl⟩ := addSystem_eq_ok hnext
      have hsystem : IsMinionOf py unicode order config indexes system minion ↔
          minion = minionOf order config indexes (systemMinionId py system)
            names := by
        simp [IsMinionOf, hnames]
      rw [ih hrest, List.mem_append, List.mem_singleton, ← hsystem, or_assoc]
      simp only [List.mem_cons, exists_eq_or_imp]

theorem isMinionOf_of_foldlM {indexes : Indexes} {systems : List JsonObject}
    {minions final : List Minion}
    (h : systems.foldlM (addSystem py unicode order config indexes) minions =
      .ok final) :
    ∀ system ∈ systems, ∃ minion,
      IsMinionOf py unicode order config indexes system minion := by
  induction systems generalizing minions with
  | nil => simp
  | cons system systems ih =>
      obtain ⟨next, hnext, hrest⟩ := bind_eq_ok_iff.mp h
      obtain ⟨minion, -, hminion⟩ := addSystem_eq_ok hnext
      rw [List.forall_mem_cons]
      exact ⟨⟨minion, hminion⟩, ih hrest⟩

/-- The inventory holds one minion for each system. -/
theorem mem_inventory {systems targets : List JsonObject}
    {inventory : List Minion}
    (h : buildMinionInventory py unicode order config systems targets =
      .ok inventory) :
    ∃ indexes, targetIndexes py unicode order config targets = .ok indexes ∧
      (∀ minion, minion ∈ inventory ↔ ∃ system ∈ systems,
        IsMinionOf py unicode order config indexes system minion) ∧
      ∀ system ∈ systems, ∃ minion,
        IsMinionOf py unicode order config indexes system minion := by
  simp only [buildMinionInventory] at h
  split at h
  next => cases h
  next indexes hindexes =>
    obtain ⟨minions, hminions, hsorted⟩ := bind_eq_ok_iff.mp h
    obtain rfl := Except.ok.inj hsorted
    refine ⟨indexes, hindexes, fun minion => ?_,
      isMinionOf_of_foldlM hminions⟩
    rw [(List.perm_insertionSort _ minions).mem_iff,
      mem_foldlM_addSystem hminions]
    simp

/-! ## Systems that end up with one instance -/

/-- The names of a system, none when they cannot be normalized. -/
def namesOf (py : Interpreter) (unicode : UnicodeText) (order : SetOrder)
    (system : JsonObject) : List String :=
  match systemNames py unicode order system with
  | .ok names => names
  | .error _ => []

/-- The systems have different minion IDs and no normalized name in common. -/
def DistinctSystems (py : Interpreter) (unicode : UnicodeText)
    (order : SetOrder) (systems : List JsonObject) : Prop :=
  systems.Pairwise fun first second =>
    systemMinionId py first ≠ systemMinionId py second ∧
      ∀ name ∈ namesOf py unicode order first,
        name ∉ namesOf py unicode order second

theorem namesOf_eq {system : JsonObject} {names : List String}
    (h : systemNames py unicode order system = .ok names) :
    namesOf py unicode order system = names := by
  unfold namesOf
  rw [h]

/-- A target answers to the names of a system, or to their first labels. -/
def AnsweredBy (known : String → Option String) (names : List String)
    (found : String) : Prop :=
  NamedTarget known names found ∨ FirstLabelTarget known names found

/-- The system has the instance for the service: a target answers to it, or
none does and the label of its minion ID stands in. -/
def Attributed (config : InventoryConfig) (service : ExporterService)
    (known : String → Option String) (minionId : String) (names : List String)
    (found : String) : Prop :=
  AnsweredBy known names found ∨
    service = .node ∧ found = expectedInstance config minionId ∧
      ∀ other, ¬AnsweredBy known names other

/-- The ways in which two systems end up with one exporter instance of a
service, by their names and minion IDs. -/
inductive Collision (config : InventoryConfig) (service : ExporterService)
    (known : String → Option String) (first second : List String)
    (secondId : String) : Prop
  /-- Names of both lead to targets with one instance label. -/
  | oneInstance (found : String) (hfirst : NamedTarget known first found)
      (hsecond : NamedTarget known second found)
  /-- One is known by its name, and the other one knows no better target among
  those that share its first label. -/
  | borrowed (found : String) (hfirst : NamedTarget known first found)
      (hsecond : FirstLabelTarget known second found)
  /-- Neither is known by name, and both share their first label with targets
  of one instance only. -/
  | sharedFirstLabel (found : String)
      (hfirst : FirstLabelTarget known first found)
      (hsecond : FirstLabelTarget known second found)
  /-- The label that stands in for the missing target of one is the instance
  of the other. -/
  | expectedLabel (hservice : service = .node)
      (hfirst : AnsweredBy known first (expectedInstance config secondId))
      (hsecond : ∀ found, ¬AnsweredBy known second found)

theorem expectedInstance_injective {firstId secondId : String}
    (h : expectedInstance config firstId = expectedInstance config secondId) :
    firstId = secondId := by
  have hchars := congrArg String.toList h
  simp only [expectedInstance, String.toList_append] at hchars
  exact String.toList_inj.mp
    (List.append_cancel_right (List.append_cancel_right hchars))

theorem collides_of_answered {service : ExporterService}
    {known : String → Option String} {first second : List String}
    {firstId secondId found : String} (hfirst : AnsweredBy known first found)
    (hsecond : AnsweredBy known second found) :
    Collision config service known first second secondId ∨
      Collision config service known second first firstId := by
  rcases hfirst with hfirst | hfirst
  · rcases hsecond with hsecond | hsecond
    · exact Or.inl (.oneInstance found hfirst hsecond)
    · exact Or.inl (.borrowed found hfirst hsecond)
  · rcases hsecond with hsecond | hsecond
    · exact Or.inr (.borrowed found hsecond hfirst)
    · exact Or.inl (.sharedFirstLabel found hfirst hsecond)

/-- Two systems with different minion IDs end up with one instance only in the
ways that are listed. -/
theorem collides_of_attributed {service : ExporterService}
    {known : String → Option String} {first second : List String}
    {firstId secondId found : String} (hids : firstId ≠ secondId)
    (hfirst : Attributed config service known firstId first found)
    (hsecond : Attributed config service known secondId second found) :
    Collision config service known first second secondId ∨
      Collision config service known second first firstId := by
  rcases hfirst with hfirst | ⟨hservice, rfl, hfirst⟩
  · rcases hsecond with hsecond | ⟨hservice, rfl, hsecond⟩
    · exact collides_of_answered hfirst hsecond
    · exact Or.inl (.expectedLabel hservice hfirst hsecond)
  · rcases hsecond with hsecond | ⟨-, hsame, -⟩
    · exact Or.inr (.expectedLabel hservice hsecond hfirst)
    · exact absurd (expectedInstance_injective hsame) hids

/-- In each of the ways listed both systems end up with one instance, and a
target leads to it. -/
theorem Collision.attributed {service : ExporterService}
    {known : String → Option String} {first second : List String}
    {secondId : String}
    (h : Collision config service known first second secondId)
    (firstId : String) :
    ∃ found, AnsweredBy known first found ∧
      Attributed config service known firstId first found ∧
      Attributed config service known secondId second found := by
  cases h with
  | oneInstance found hfirst hsecond =>
      exact ⟨found, Or.inl hfirst, Or.inl (Or.inl hfirst),
        Or.inl (Or.inl hsecond)⟩
  | borrowed found hfirst hsecond =>
      exact ⟨found, Or.inl hfirst, Or.inl (Or.inl hfirst),
        Or.inl (Or.inr hsecond)⟩
  | sharedFirstLabel found hfirst hsecond =>
      exact ⟨found, Or.inr hfirst, Or.inl (Or.inr hfirst),
        Or.inl (Or.inr hsecond)⟩
  | expectedLabel hservice hfirst hsecond =>
      exact ⟨_, hfirst, Or.inl hfirst, Or.inr ⟨hservice, rfl, hsecond⟩⟩

theorem AnsweredBy.exists_known {known : String → Option String}
    {names : List String} {found : String} (h : AnsweredBy known names found) :
    ∃ host, known host = some found := by
  rcases h with hnamed | hshared
  · obtain ⟨host, -, hhost⟩ := List.exists_of_findSome?_eq_some hnamed
    exact ⟨host, hhost⟩
  · obtain ⟨host, -, hhost⟩ := hshared.shared
    exact ⟨host, hhost⟩

section Lookup

variable {indexes : Indexes} {service : ExporterService}
  {known : String → Option String}

theorem present_findTarget (hindex : (indexes service).get? = known)
    (hne : ∀ host found, known host = some found → found ≠ "")
    {names : List String} {found : String} :
    present (findTarget order (indexes service) names) = some found ↔
      AnsweredBy known names found := by
  rw [present, Option.filter_eq_some_iff, findTarget_eq_some_iff hindex]
  constructor
  · rintro ⟨hanswer, -⟩
    exact hanswer
  · intro hanswer
    obtain ⟨host, hhost⟩ := AnsweredBy.exists_known hanswer
    exact ⟨hanswer, decide_eq_true (hne host found hhost)⟩

/-- An attribution comes from a target, or it is the label that stands in for
a missing one. -/
theorem instanceOf_minionOf (hindex : (indexes service).get? = known)
    (hne : ∀ host found, known host = some found → found ≠ "")
    {minionId found : String} {names : List String} :
    instanceOf service (minionOf order config indexes minionId names) =
        some found ↔ Attributed config service known minionId names found := by
  have hanswer (other : String) :
      present (findTarget order (indexes service) names) = some other ↔
        AnsweredBy known names other :=
    present_findTarget hindex hne
  cases service with
  | node =>
      simp only [Attributed, instanceOf, minionOf, Option.some.injEq, ← hanswer,
        true_and]
      cases present (findTarget order (indexes .node) names) with
      | none => simp [eq_comm]
      | some other => simp
  | apache => simp [Attributed, instanceOf, minionOf, hanswer]
  | postgres => simp [Attributed, instanceOf, minionOf, hanswer]

end Lookup

/-- The inventory attributes each discovered instance once if and only if no
two of its systems collide. -/
theorem attributesOnce_iff {systems targets : List JsonObject}
    {inventory : List Minion}
    (h : buildMinionInventory py unicode order config systems targets =
      .ok inventory) :
    AttributesOnce py unicode config targets inventory ↔
      ∀ first ∈ systems, ∀ second ∈ systems,
        systemMinionId py first ≠ systemMinionId py second → ∀ service,
          ¬Collision config service (knownAs py unicode config targets service)
            (namesOf py unicode order first) (namesOf py unicode order second)
            (systemMinionId py second) := by
  obtain ⟨indexes, hindexes, hmem, hall⟩ := mem_inventory h
  have hindex : ∀ service, (indexes service).get? =
      knownAs py unicode config targets service := by
    intro service
    funext host
    exact targetIndexes_spec hindexes service host
  have hne : ∀ service host found,
      knownAs py unicode config targets service host = some found →
        found ≠ "" := by
    intro service host found hfound
    exact (mem_discoveredInstances hfound).2
  constructor
  · intro honce first hfirst second hsecond hids service hcollision
    obtain ⟨_, names, hnames, rfl⟩ := hall first hfirst
    obtain ⟨_, otherNames, hotherNames, rfl⟩ := hall second hsecond
    rw [namesOf_eq hnames, namesOf_eq hotherNames] at hcollision
    obtain ⟨found, hanswer, hfirstFound, hsecondFound⟩ :=
      hcollision.attributed (systemMinionId py first)
    obtain ⟨host, hhost⟩ := AnsweredBy.exists_known hanswer
    refine honce _ ((hmem _).mpr ⟨first, hfirst, names, hnames, rfl⟩) _
      ((hmem _).mpr ⟨second, hsecond, otherNames, hotherNames, rfl⟩) hids
      service found (mem_discoveredInstances hhost).1 ⟨?_, ?_⟩
    · exact (instanceOf_minionOf (hindex service) (hne service)).mpr hfirstFound
    · exact (instanceOf_minionOf (hindex service) (hne service)).mpr
        hsecondFound
  · intro hnone first hfirst second hsecond hids service found _ hboth
    obtain ⟨system, hsystem, names, hnames, rfl⟩ := (hmem first).mp hfirst
    obtain ⟨other, hother, otherNames, hotherNames, rfl⟩ :=
      (hmem second).mp hsecond
    have hdiffer : systemMinionId py system ≠ systemMinionId py other := hids
    have hfirstFound := (instanceOf_minionOf (hindex service)
      (hne service)).mp hboth.1
    have hsecondFound := (instanceOf_minionOf (hindex service)
      (hne service)).mp hboth.2
    have hcollides := collides_of_attributed hdiffer hfirstFound hsecondFound
    rw [← namesOf_eq hnames, ← namesOf_eq hotherNames] at hcollides
    rcases hcollides with hcollision | hcollision
    · exact hnone system hsystem other hother hdiffer service hcollision
    · exact hnone other hother system hsystem hdiffer.symm service hcollision

end Model

/-! ## Ordinary host names -/

/-- A system as `list_active_systems` returns it, registered under its name. -/
def registered (name : String) : JsonObject :=
  [("name", .str name), ("minion_id", .str name)]

/-- A target of the node exporter. -/
def nodeTarget (address : String) : JsonObject :=
  [("labels", .dict [("job", .str "node"), ("instance", .str address)]),
    ("discoveredLabels", .dict [("__address__", .str address)]),
    ("scrapeUrl", .str ("http://" ++ address ++ "/metrics"))]

def ordinaryConfig : InventoryConfig :=
  ⟨[(.node, ["node"]), (.apache, ["apache"]), (.postgres, ["postgres"])], 9100⟩

def ordinaryInterpreter : Interpreter := ⟨1000, fun _ => ""⟩

theorem attributesOnce_iff_two_names :
    AttributesOnce ordinaryInterpreter .ascii ordinaryConfig
        [nodeTarget "web.example:9100"]
        [⟨"db.example", "db.example:9100", none, none⟩,
          ⟨"web.example", "web.example:9100", none, none⟩] ↔
      ∀ first ∈ [registered "web.example", registered "db.example"],
        ∀ second ∈ [registered "web.example", registered "db.example"],
          systemMinionId ordinaryInterpreter first ≠
              systemMinionId ordinaryInterpreter second → ∀ service,
            ¬Collision ordinaryConfig service
              (knownAs ordinaryInterpreter .ascii ordinaryConfig
                [nodeTarget "web.example:9100"] service)
              (namesOf ordinaryInterpreter .ascii .firstSeen first)
              (namesOf ordinaryInterpreter .ascii .firstSeen second)
              (systemMinionId ordinaryInterpreter second) := by
  have hinventory : buildMinionInventory ordinaryInterpreter .ascii .firstSeen
      ordinaryConfig [registered "web.example", registered "db.example"]
      [nodeTarget "web.example:9100"] = .ok
        [⟨"db.example", "db.example:9100", none, none⟩,
          ⟨"web.example", "web.example:9100", none, none⟩] := by
    decide +kernel
  exact attributesOnce_iff hinventory

/-- The only target of `web` belongs to one domain, and the system of that name
in the other domain is given it too. -/
theorem target_given_to_two_systems :
    ¬∀ systems targets inventory,
      DistinctSystems ordinaryInterpreter .ascii .firstSeen systems →
      buildMinionInventory ordinaryInterpreter .ascii .firstSeen ordinaryConfig
        systems targets = .ok inventory →
      AttributesOnce ordinaryInterpreter .ascii ordinaryConfig targets
        inventory := by
  intro h
  have hdistinct : DistinctSystems ordinaryInterpreter .ascii .firstSeen
      [registered "web.a.example", registered "web.b.example"] := by
    unfold DistinctSystems
    decide +kernel
  have hinventory : buildMinionInventory ordinaryInterpreter .ascii .firstSeen
      ordinaryConfig [registered "web.a.example", registered "web.b.example"]
      [nodeTarget "web.a.example:9100"] = .ok
        [⟨"web.a.example", "web.a.example:9100", none, none⟩,
          ⟨"web.b.example", "web.a.example:9100", none, none⟩] := by
    decide +kernel
  have hdiscovered : "web.a.example:9100" ∈ discoveredInstances
      ordinaryInterpreter .ascii ordinaryConfig
      [nodeTarget "web.a.example:9100"] .node := by
    decide +kernel
  exact h _ _ _ hdistinct hinventory _ List.mem_cons_self _
    (List.mem_cons_of_mem _ List.mem_cons_self) (by decide) .node _ hdiscovered
    ⟨rfl, rfl⟩

end UyuniAgent.Inventory
