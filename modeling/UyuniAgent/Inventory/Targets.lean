import Mathlib.Data.List.Dedup
import Mathlib.Data.List.Sort
import UyuniAgent.Inventory.HostName
import UyuniAgent.Support.OrderedDict

/-!
# Exporter targets and the systems they belong to

`_target_indexes` files the instance label of every target under the host names
that the target is known by, one index for each service.  `_find_target` looks
a system up by its names, and failing that by the first labels of its names.
-/

namespace UyuniAgent.Inventory

open Raising

/-- The order in which a set of texts is iterated; it depends on how the set
was built. -/
structure SetOrder where
  iterate : List String → List String
  perm : ∀ items, (iterate items).Perm items.dedup

namespace SetOrder

/-- The elements in the order in which they came. -/
def firstSeen : SetOrder := ⟨List.dedup, fun _ => List.Perm.refl _⟩

variable {order : SetOrder} {items : List String} {text : String}

theorem mem_iterate : text ∈ order.iterate items ↔ text ∈ items := by
  rw [(order.perm items).mem_iff, List.mem_dedup]

theorem iterate_eq_singleton_iff :
    order.iterate items = [text] ↔
      text ∈ items ∧ ∀ other ∈ items, other = text := by
  have hnodup : (order.iterate items).Nodup :=
    (order.perm items).nodup_iff.mpr (List.nodup_dedup items)
  rw [← List.perm_singleton,
    List.perm_ext_iff_of_nodup hnodup (List.nodup_singleton text)]
  simp only [mem_iterate, List.mem_singleton]
  constructor
  · intro h
    exact ⟨(h text).mpr rfl, fun other hother => (h other).mp hother⟩
  · rintro ⟨hmem, hall⟩ other
    constructor
    · exact hall other
    · rintro rfl
      exact hmem

end SetOrder

/-- `next(iter(items)) if len(items) == 1 else None`. -/
def onlyElement : List String → Option String
  | [item] => some item
  | _ => none

theorem onlyElement_eq_some_iff {items : List String} {item : String} :
    onlyElement items = some item ↔ items = [item] := by
  rcases items with _ | ⟨first, _ | ⟨second, rest⟩⟩
  · simp [onlyElement]
  · simp [onlyElement]
  · simp [onlyElement]

inductive ExporterService
  | node
  | apache
  | postgres
  deriving DecidableEq, Repr

/-- `inventory` of the configuration, after validation. -/
structure InventoryConfig where
  prometheusJobs : List (ExporterService × List String)
  nodeExporterPort : ℕ

/-- An object of the answer of Prometheus or Uyuni. -/
abbrev JsonObject := List (String × PyValue)

/-- A field that should hold an object. -/
def mapping : PyValue → JsonObject
  | .dict members => members
  | _ => []

abbrev Indexes := ExporterService → OrderedDict String String

section Model

variable (py : Interpreter) (unicode : UnicodeText) (order : SetOrder)

/-! ## Indexes -/

def jobToService (config : InventoryConfig) :
    OrderedDict String ExporterService :=
  (config.prometheusJobs.flatMap fun entry =>
    entry.2.map fun job => (unicode.lower job, entry.1)).foldl
      (fun jobs entry => jobs.set entry.1 entry.2) .empty

/-- The service and the instance label of a target of a configured job. -/
def targetExporter (config : InventoryConfig) (target : JsonObject) :
    Option (ExporterService × String) :=
  let labels := mapping (PyValue.get target "labels")
  let discovered := mapping (PyValue.get target "discoveredLabels")
  let job := either (either (PyValue.get labels "job")
    (PyValue.get discovered "job")) (.str "")
  let instanceName := PyText.strip ((either
    (either (PyValue.get labels "instance")
      (PyValue.get discovered "__address__")) (.str "")).toStr py)
  match (jobToService unicode config).get? (unicode.lower (job.toStr py)) with
  | none => none
  | some service =>
      if instanceName = "" then none else some (service, instanceName)

/-- The host names of a target, as a set that may hold the empty text. -/
def targetAliases (target : JsonObject) (instanceName : String) :
    Except PyException (List String) := do
  let discovered := mapping (PyValue.get target "discoveredLabels")
  return [← normalizedHost py unicode (.str instanceName),
    ← normalizedHost py unicode (PyValue.get discovered "__address__"),
    ← normalizedHost py unicode (PyValue.get target "scrapeUrl")]

/-- One round of `_target_indexes`. -/
def addTarget (config : InventoryConfig) (indexes : Indexes)
    (target : JsonObject) : Except PyException Indexes :=
  match targetExporter py unicode config target with
  | none => .ok indexes
  | some (service, instanceName) => do
      let aliases ← targetAliases py unicode target instanceName
      return Function.update indexes service
        ((order.iterate (aliases.filter (· ≠ ""))).foldl
          (fun index name => index.setDefault name instanceName)
          (indexes service))

def targetIndexes (config : InventoryConfig) (targets : List JsonObject) :
    Except PyException Indexes :=
  targets.foldlM (addTarget py unicode order config) fun _ => .empty

/-! ## Looking a system up -/

/-- The names of a system in the order in which they are tried. -/
def searchOrder (systemNames : List String) : List String :=
  systemNames.insertionSort fun first second => second.length ≤ first.length

def findTarget (index : OrderedDict String String)
    (systemNames : List String) : Option String :=
  match (searchOrder systemNames).findSome? index.get? with
  | some instanceName => some instanceName
  | none =>
      let shortNames := systemNames.map shortHost
      onlyElement (order.iterate ((index.entries.filter fun entry =>
        shortHost entry.1 ∈ shortNames).map Prod.snd))

/-! ## What the indexes hold -/

/-- The instance label of a target of the service that goes by the host
name. -/
def instanceFor (config : InventoryConfig) (service : ExporterService)
    (host : String) (target : JsonObject) : Option String :=
  match targetExporter py unicode config target with
  | none => none
  | some (offered, instanceName) =>
      match targetAliases py unicode target instanceName with
      | .error _ => none
      | .ok aliases =>
          if offered = service ∧ host ≠ "" ∧ host ∈ aliases then
            some instanceName
          else none

/-- The instance label of the first target of the service that goes by the
host name. -/
def knownAs (config : InventoryConfig) (targets : List JsonObject)
    (service : ExporterService) (host : String) : Option String :=
  targets.findSome? (instanceFor py unicode config service host)

variable {py unicode order}

theorem addTarget_spec {config : InventoryConfig} {indexes next : Indexes}
    {target : JsonObject}
    (h : addTarget py unicode order config indexes target = .ok next)
    (service : ExporterService) (host : String) :
    (next service).get? host =
      ((indexes service).get? host).or
        (instanceFor py unicode config service host target) := by
  simp only [addTarget] at h
  simp only [instanceFor]
  split at h
  next =>
    obtain rfl := Except.ok.inj h
    rw [Option.or_none]
  next offered instanceName _ =>
    obtain ⟨aliases, haliases, hnext⟩ := bind_eq_ok_iff.mp h
    obtain rfl := Except.ok.inj hnext
    simp only [haliases]
    by_cases hservice : service = offered
    · subst hservice
      rw [Function.update_self, OrderedDict.get?_foldl_setDefault]
      simp [SetOrder.mem_iterate, and_comm]
    · have hother : ¬(offered = service ∧ host ≠ "" ∧ host ∈ aliases) :=
        fun hall => hservice hall.1.symm
      rw [Function.update_of_ne hservice, if_neg hother, Option.or_none]

theorem foldlM_addTarget_spec {config : InventoryConfig}
    {targets : List JsonObject} {indexes final : Indexes}
    (h : targets.foldlM (addTarget py unicode order config) indexes = .ok final)
    (service : ExporterService) (host : String) :
    (final service).get? host =
      ((indexes service).get? host).or
        (knownAs py unicode config targets service host) := by
  induction targets generalizing indexes with
  | nil =>
      obtain rfl := Except.ok.inj h
      simp [knownAs]
  | cons target targets ih =>
      obtain ⟨next, hnext, hrest⟩ := bind_eq_ok_iff.mp h
      rw [ih hrest, addTarget_spec hnext, Option.or_assoc]
      congr 1
      simp only [knownAs, List.findSome?_cons]
      cases instanceFor py unicode config service host target with
      | none => exact Option.none_or
      | some instanceName => exact Option.some_or

theorem targetExporter_of_instanceFor {config : InventoryConfig}
    {service : ExporterService} {host found : String} {target : JsonObject}
    (h : instanceFor py unicode config service host target = some found) :
    targetExporter py unicode config target = some (service, found) := by
  simp only [instanceFor] at h
  split at h
  next => cases h
  next offered instanceName hexporter =>
    split at h
    next => cases h
    next aliases _ =>
      rw [Option.ite_none_right_eq_some] at h
      obtain ⟨⟨rfl, -⟩, hsame⟩ := h
      obtain rfl := Option.some.inj hsame
      exact hexporter

/-- An index leads from a host name to the first target that goes by it. -/
theorem targetIndexes_spec {config : InventoryConfig}
    {targets : List JsonObject} {indexes : Indexes}
    (h : targetIndexes py unicode order config targets = .ok indexes)
    (service : ExporterService) (host : String) :
    (indexes service).get? host =
      knownAs py unicode config targets service host := by
  rw [foldlM_addTarget_spec h, OrderedDict.get?_empty, Option.none_or]

end Model

/-! ## Which target answers to a system -/

section Answers

variable (known : String → Option String) (systemNames : List String)

/-- The first name of the system that is known leads to the instance. -/
def NamedTarget (instanceName : String) : Prop :=
  (searchOrder systemNames).findSome? known = some instanceName

/-- The host shares its first label with a name of the system. -/
def SharesLabel (host : String) : Prop :=
  ∃ name ∈ systemNames, shortHost host = shortHost name

/-- No name of the system is known, and the known hosts that share a first
label with it are all of one instance. -/
structure FirstLabelTarget (instanceName : String) : Prop where
  unknown : ∀ name ∈ systemNames, known name = none
  shared : ∃ host, SharesLabel systemNames host ∧
    known host = some instanceName
  only : ∀ host other, SharesLabel systemNames host →
    known host = some other → other = instanceName

variable {known systemNames}

theorem mem_searchOrder {name : String} :
    name ∈ searchOrder systemNames ↔ name ∈ systemNames :=
  (List.perm_insertionSort _ systemNames).mem_iff

theorem searched_eq_none_iff :
    (searchOrder systemNames).findSome? known = none ↔
      ∀ name ∈ systemNames, known name = none := by
  simp [List.findSome?_eq_none_iff, mem_searchOrder]

theorem findTarget_eq_some_iff {order : SetOrder}
    {index : OrderedDict String String} (hindex : index.get? = known)
    {instanceName : String} :
    findTarget order index systemNames = some instanceName ↔
      NamedTarget known systemNames instanceName ∨
        FirstLabelTarget known systemNames instanceName := by
  have hmatching : ∀ w, w ∈ ((index.entries.filter fun entry =>
      shortHost entry.1 ∈ systemNames.map shortHost).map Prod.snd) ↔
        ∃ host, SharesLabel systemNames host ∧ known host = some w := by
    intro w
    simp only [List.mem_map, List.mem_filter, decide_eq_true_eq, Prod.exists,
      exists_eq_right, ← OrderedDict.get?_eq_some_iff, hindex, SharesLabel]
    constructor
    · rintro ⟨host, hknown, name, hname, hshort⟩
      exact ⟨host, ⟨name, hname, hshort.symm⟩, hknown⟩
    · rintro ⟨host, ⟨name, hname, hshort⟩, hknown⟩
      exact ⟨host, hknown, name, hname, hshort.symm⟩
  simp only [findTarget, hindex]
  split
  next found hfound =>
    constructor
    · intro h
      exact Or.inl (hfound.trans h)
    · rintro (hnamed | hshared)
      · exact hfound.symm.trans hnamed
      · rw [searched_eq_none_iff.mpr hshared.unknown] at hfound
        cases hfound
  next hnone =>
    have hunknown := searched_eq_none_iff.mp hnone
    rw [onlyElement_eq_some_iff, SetOrder.iterate_eq_singleton_iff, hmatching]
    simp only [hmatching]
    constructor
    · rintro ⟨hshared, honly⟩
      exact Or.inr ⟨hunknown, hshared, fun host other hlabel hknown =>
        honly other ⟨host, hlabel, hknown⟩⟩
    · rintro (hnamed | hshared)
      · rw [NamedTarget, hnone] at hnamed
        cases hnamed
      · refine ⟨hshared.shared, ?_⟩
        rintro other ⟨host, hlabel, hknown⟩
        exact hshared.only host other hlabel hknown

end Answers

end UyuniAgent.Inventory
