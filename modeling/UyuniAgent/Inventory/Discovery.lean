import UyuniAgent.Inventory.Attribution
import UyuniAgent.Salt.Client
import UyuniAgent.Support.Run

/-!
# Discovery of the inventory

`UyuniAPIClient`, `list_prometheus_targets` and `InventoryProvider` of
`inventory.py`.  What the network does is an argument: the replies to the
requests of a refresh.  Uyuni alone decides which minions there are, and a
refresh that fails falls back on the last inventory that was discovered.
-/

namespace UyuniAgent.Inventory

open Raising Salt

inductive DiscoveryException
  | httpError (text : String)
  | inventoryError (message : String)
  | valueError
  | recursionError
  deriving DecidableEq, Repr

/-- `_bounded_error`. -/
def boundedError (rendered : String) : String :=
  PyText.take 300
    (String.ofList ((PyText.strip rendered).toList.filter (· ≠ Char.ofNat 0)))

def isSuccess (status : ℕ) : Bool := 200 ≤ status && status < 300

section Model

variable (py : Interpreter) (unicode : UnicodeText) (config : InventoryConfig)

/-! ## `UyuniAPIClient` -/

def apiValue : PyValue → Except DiscoveryException PyValue
  | .dict members =>
      match PyValue.get members "success" with
      | .bool false =>
          .error (.inventoryError ("Uyuni API request failed: " ++
            boundedError ((PyValue.get members "message").toStr py)))
      | _ =>
          -- The REST facade wraps a return value in an array.
          match PyValue.get members "result" with
          | .list [value] => .ok value
          | value => .ok value
  | _ => .error (.inventoryError "Uyuni API response must be a JSON object")

def apiResult (payload : PyValue) :
    Except DiscoveryException (List PyValue) := do
  match ← apiValue py payload with
  | .list items => return items
  | _ => throw (.inventoryError "Uyuni API result must be a list")

/-- The session before a request, and the replies to what it may send. -/
structure UyuniExchange where
  loggedIn : Bool
  loginReply : HttpReply
  answer : HttpReply
  reloginReply : HttpReply
  retried : HttpReply

def request : HttpReply → Except DiscoveryException (ℕ × Option String)
  | .failed error => .error (.httpError error)
  | .response status _ body => .ok (status, body)

def login (reply : HttpReply) : Except DiscoveryException Unit := do
  let (status, _) ← request reply
  if isSuccess status then return ()
  else
    throw (.inventoryError ("Uyuni API login failed: HTTP " ++ toString status))

def decodeBody : Option String → Except DiscoveryException PyValue
  | none => .error (.inventoryError "Uyuni API returned invalid JSON")
  | some text =>
      match Json.loads py text with
      | .ok value => .ok value
      | .error .recursionError => .error .recursionError
      | .error _ => .error (.inventoryError "Uyuni API returned invalid JSON")

/-- `_get`. -/
def UyuniExchange.get (exchange : UyuniExchange) :
    Except DiscoveryException PyValue := do
  if !exchange.loggedIn then
    login exchange.loginReply
  let first ← request exchange.answer
  let (status, body) ←
    if first.1 = 401 then do
      login exchange.reloginReply
      request exchange.retried
    else pure first
  if isSuccess status then decodeBody py body
  else
    throw (.inventoryError
      ("Uyuni API request failed: HTTP " ++ toString status))

/-- One entry of the minion ID map, which leads from minions to systems. -/
def addMinionId (ids : OrderedDict String String) (entry : String × PyValue) :
    OrderedDict String String :=
  if PyText.strip entry.1 = "" then ids
  else ids.set (entry.2.toStr py) (PyText.strip entry.1)

/-- The minion ID of each system ID; a later entry of the map wins. -/
def systemToMinion (idMap : JsonObject) : OrderedDict String String :=
  idMap.foldl (addMinionId py) .empty

/-- One round of the loop of `list_active_systems`. -/
def addActiveSystem (ids : OrderedDict String String)
    (systems : List JsonObject) :
    PyValue → Except DiscoveryException (List JsonObject)
  | .dict item =>
      if systemName py item = "" then
        .error (.inventoryError "Uyuni active-system entry has no name")
      else
        match ids.get? ((PyValue.get item "id").toStr py) with
        | some minionId =>
            .ok (systems ++
              [PyValue.setMember "minion_id" (.str minionId) item])
        | none => .ok systems
  | _ =>
      .error (.inventoryError "Uyuni active-system entry must be an object")

def listActiveSystems (active idMap : PyValue) :
    Except DiscoveryException (List JsonObject) := do
  let result ← apiResult py active
  match ← apiValue py idMap with
  | .dict members =>
      result.foldlM (addActiveSystem py (systemToMinion py members)) []
  | _ => throw (.inventoryError "Uyuni minion ID map must be an object")

/-! ## `list_prometheus_targets` -/

def activeTargets (payload : PyValue) :
    Except DiscoveryException (List JsonObject) :=
  match PyValue.get (mapping payload) "status" with
  | .str "success" =>
      match PyValue.get (mapping (PyValue.get (mapping payload) "data"))
          "activeTargets" with
      | .list items =>
          if items.all fun item => item.typeName = "dict" then
            .ok (items.map mapping)
          else
            .error (.inventoryError
              "Prometheus target entry must be an object")
      | _ =>
          .error (.inventoryError "Prometheus activeTargets must be a list")
  | _ =>
      .error (.inventoryError "Prometheus target discovery returned an error")

/-- The text of the exception that a body without JSON raises is an
argument. -/
def listPrometheusTargets (invalidJson : String) (reply : HttpReply) :
    Except DiscoveryException (List JsonObject) :=
  let failed := fun text => Except.error (.inventoryError
    ("Prometheus target discovery failed: " ++ boundedError text))
  match reply with
  | .failed error => failed error
  | .response status statusError body =>
      if isSuccess status then
        match body.map (Json.loads py) with
        | some (.ok payload) => activeTargets payload
        | some (.error .recursionError) => .error .recursionError
        | _ => failed invalidJson
      else failed statusError

/-! ## `InventoryProvider` -/

/-- The replies to one discovery, and the order in which its sets are
iterated. -/
structure DiscoveryAnswers where
  active : UyuniExchange
  idMap : UyuniExchange
  targets : HttpReply
  invalidJson : String
  order : SetOrder

/-- The systems that Uyuni answers. -/
def DiscoveryAnswers.systems (answers : DiscoveryAnswers) :
    Except DiscoveryException (List JsonObject) := do
  let active ← answers.active.get py
  let idMap ← answers.idMap.get py
  listActiveSystems py active idMap

def discover (answers : DiscoveryAnswers) :
    Except DiscoveryException (List Minion) := do
  let systems ← answers.systems py
  let targets ← listPrometheusTargets py answers.invalidJson answers.targets
  match buildMinionInventory py unicode answers.order config systems
    targets with
  | .ok discovered => return discovered
  | .error .valueError => throw .valueError
  | .error (.inventoryError message) => throw (.inventoryError message)

structure InventoryProvider where
  lastGood : Option (List Minion)
  refreshedAt : ℚ

def InventoryProvider.initial : InventoryProvider := ⟨none, 0⟩

/-- A call of `refresh`: the clock at its beginning and after a discovery. -/
structure RefreshCall where
  force : Bool
  now : ℚ
  answers : DiscoveryAnswers
  finishedAt : ℚ

/-- The known inventory is recent enough. -/
def RefreshCall.reuses (interval : ℚ) (provider : InventoryProvider)
    (call : RefreshCall) : Bool :=
  !call.force && provider.lastGood.isSome &&
    call.now - provider.refreshedAt < interval

def InventoryProvider.refresh (interval : ℚ) (provider : InventoryProvider)
    (call : RefreshCall) :
    Except DiscoveryException (List Minion) × InventoryProvider :=
  if call.reuses interval provider then
    (.ok (provider.lastGood.getD []), provider)
  else
    match discover py unicode config call.answers with
    | .ok discovered => (.ok discovered, ⟨some discovered, call.finishedAt⟩)
    | .error e =>
        match provider.lastGood with
        | none => (.error e, provider)
        | some known => (.ok known, provider)

end Model

/-! ## Minions come from Uyuni -/

/-- The replies of Uyuni list the minion: it maps the ID to a system that it
lists as active. -/
def DiscoveryAnswers.Lists (py : Interpreter) (answers : DiscoveryAnswers)
    (minionId : String) : Prop :=
  ∃ active idMap items members item key value,
    answers.active.get py = .ok active ∧ apiResult py active = .ok items ∧
      answers.idMap.get py = .ok idMap ∧
      apiValue py idMap = .ok (.dict members) ∧
      .dict item ∈ items ∧ (key, value) ∈ members ∧
      PyText.strip key = minionId ∧ minionId ≠ "" ∧
      value.toStr py = (PyValue.get item "id").toStr py

section Lemmas

variable {py : Interpreter} {unicode : UnicodeText} {config : InventoryConfig}

theorem strip_strip (text : String) :
    PyText.strip (PyText.strip text) = PyText.strip text := by
  apply PyText.strip_eq_self
  · intro c hc
    rw [PyText.strip, String.toList_ofList] at hc
    obtain ⟨rest, hrest⟩ := List.rdropWhile_prefix PyText.isSpace
      (text.toList.dropWhile PyText.isSpace)
    obtain ⟨letters, hletters⟩ := List.head?_eq_some_iff.mp hc
    rw [hletters, List.cons_append] at hrest
    have hhead := List.head?_dropWhile_not PyText.isSpace text.toList
    rw [← hrest] at hhead
    simpa using hhead
  · intro c hc
    exact PyText.isSpace_getLast?_strip hc

theorem lookup_setMember (key : String) (value : PyValue)
    (members : JsonObject) :
    (PyValue.setMember key value members).lookup key = some value := by
  induction members with
  | nil => simp [PyValue.setMember]
  | cons entry members ih =>
      obtain ⟨other, old⟩ := entry
      rw [PyValue.setMember]
      split
      · exact List.lookup_cons_self
      next hne =>
        rw [List.lookup_cons, beq_false_of_ne (Ne.symm hne)]
        exact ih

/-- An ID that the map leads to is the stripped key of one of its entries. -/
theorem exists_of_systemToMinion {idMap : JsonObject}
    {systemId minionId : String}
    (h : (systemToMinion py idMap).get? systemId = some minionId) :
    ∃ key value, (key, value) ∈ idMap ∧ PyText.strip key = minionId ∧
      minionId ≠ "" ∧ value.toStr py = systemId := by
  induction idMap using List.reverseRecOn with
  | nil => cases h
  | append_singleton entries entry ih =>
      rw [systemToMinion, List.foldl_append] at h
      change (addMinionId py (systemToMinion py entries) entry).get? systemId =
        some minionId at h
      have hold (hminion : (systemToMinion py entries).get? systemId =
          some minionId) :
          ∃ key value, (key, value) ∈ entries ++ [entry] ∧
            PyText.strip key = minionId ∧ minionId ≠ "" ∧
            value.toStr py = systemId := by
        obtain ⟨key, value, hmem, hrest⟩ := ih hminion
        exact ⟨key, value, List.mem_append_left _ hmem, hrest⟩
      rw [addMinionId] at h
      split at h
      · exact hold h
      next hne =>
        rcases OrderedDict.get?_set_cases h with ⟨hkey, rfl⟩ | ⟨-, hminion⟩
        · exact ⟨entry.1, entry.2,
            List.mem_append_right entries List.mem_cons_self, rfl, hne,
            hkey⟩
        · exact hold hminion

/-- The systems found are items of the list with an ID of the map. -/
theorem mem_foldlM_addActiveSystem {ids : OrderedDict String String}
    {items : List PyValue} {systems final : List JsonObject}
    (h : items.foldlM (addActiveSystem py ids) systems = .ok final)
    {system : JsonObject} (hsystem : system ∈ final) :
    system ∈ systems ∨ ∃ item minionId, .dict item ∈ items ∧
      ids.get? ((PyValue.get item "id").toStr py) = some minionId ∧
      system = PyValue.setMember "minion_id" (.str minionId) item := by
  induction items generalizing systems with
  | nil =>
      obtain rfl := Except.ok.inj h
      exact Or.inl hsystem
  | cons first items ih =>
      obtain ⟨next, hnext, hrest⟩ := bind_eq_ok_iff.mp h
      rcases ih hrest with hmem | ⟨item, minionId, hitem, hfound⟩
      · unfold addActiveSystem at hnext
        split at hnext
        next item =>
          split at hnext
          next => cases hnext
          next =>
            split at hnext
            next minionId hid =>
              obtain rfl := Except.ok.inj hnext
              rcases List.mem_append.mp hmem with hold | hnew
              · exact Or.inl hold
              · exact Or.inr ⟨item, minionId, List.mem_cons_self, hid,
                  List.mem_singleton.mp hnew⟩
            next =>
              obtain rfl := Except.ok.inj hnext
              exact Or.inl hmem
        next => cases hnext
      · exact Or.inr ⟨item, minionId, List.mem_cons_of_mem first hitem, hfound⟩

/-- The systems of a discovery carry the IDs that Uyuni lists. -/
theorem lists_of_mem_systems {answers : DiscoveryAnswers}
    {systems : List JsonObject} (h : answers.systems py = .ok systems)
    {system : JsonObject} (hsystem : system ∈ systems) :
    answers.Lists py (systemMinionId py system) := by
  obtain ⟨active, hactive, h⟩ := bind_eq_ok_iff.mp h
  obtain ⟨idMap, hidMap, h⟩ := bind_eq_ok_iff.mp h
  obtain ⟨items, hitems, h⟩ := bind_eq_ok_iff.mp h
  obtain ⟨value, hvalue, h⟩ := bind_eq_ok_iff.mp h
  split at h
  next members =>
    rcases mem_foldlM_addActiveSystem h hsystem with
      hnone | ⟨item, minionId, hitem, hid, rfl⟩
    · cases hnone
    · obtain ⟨key, value, hentry, hkey, hne, hsame⟩ :=
        exists_of_systemToMinion hid
      have hminion : systemMinionId py
          (PyValue.setMember "minion_id" (.str minionId) item) = minionId := by
        have hstripped : PyText.strip minionId = minionId := by
          rw [← hkey]
          exact strip_strip key
        rw [systemMinionId, PyValue.get, lookup_setMember]
        simp [either, PyValue.truthy, hne, PyValue.toStr, hstripped]
      rw [hminion]
      exact ⟨active, idMap, items, members, item, key, value, hactive, hitems,
        hidMap, hvalue, hitem, hentry, hkey, hne, hsame⟩
  next => cases h

theorem discover_eq_ok {answers : DiscoveryAnswers} {inventory : List Minion}
    (h : discover py unicode config answers = .ok inventory) :
    ∃ systems targets, answers.systems py = .ok systems ∧
      buildMinionInventory py unicode answers.order config systems targets =
        .ok inventory := by
  obtain ⟨systems, hsystems, h⟩ := bind_eq_ok_iff.mp h
  obtain ⟨targets, -, h⟩ := bind_eq_ok_iff.mp h
  refine ⟨systems, targets, hsystems, ?_⟩
  split at h
  next discovered hdiscovered =>
    obtain rfl := Except.ok.inj h
    exact hdiscovered
  next => cases h
  next => cases h

/-- Whatever Prometheus answers, a discovered minion is one that Uyuni
lists. -/
theorem lists_of_discovered {answers : DiscoveryAnswers}
    {inventory : List Minion}
    (h : discover py unicode config answers = .ok inventory) {minion : Minion}
    (hminion : minion ∈ inventory) : answers.Lists py minion.id := by
  obtain ⟨systems, targets, hsystems, hinventory⟩ := discover_eq_ok h
  obtain ⟨indexes, -, hmem, -⟩ := mem_inventory hinventory
  obtain ⟨system, hsystem, names, -, rfl⟩ := (hmem minion).mp hminion
  exact lists_of_mem_systems hsystems hsystem

end Lemmas

/-! ## The last inventory that was discovered -/

section History

open Transition

variable (py : Interpreter) (unicode : UnicodeText) (config : InventoryConfig)
  (interval : ℚ)

/-- The provider after a list of refreshes. -/
def providerAfter (past : List RefreshCall) : InventoryProvider :=
  stateAfter (fun provider call =>
    provider.refresh py unicode config interval call) .initial past

/-- What a refresh returns or raises after some others. -/
def refreshed (past : List RefreshCall) (call : RefreshCall) :
    Except DiscoveryException (List Minion) :=
  ((providerAfter py unicode config interval past).refresh py unicode config
    interval call).1

/-- The refresh asks Uyuni and Prometheus. -/
def Asks (past : List RefreshCall) (call : RefreshCall) : Prop :=
  call.reuses interval (providerAfter py unicode config interval past) = false

/-- The inventory of the last refresh that asked and was answered. -/
inductive IsLastDiscovered : List RefreshCall → List Minion → Prop
  | answered (past : List RefreshCall) (call : RefreshCall)
      (inventory : List Minion) (hasks : Asks py unicode config interval past
        call)
      (hanswer : discover py unicode config call.answers = .ok inventory) :
      IsLastDiscovered (past ++ [call]) inventory
  | kept (past : List RefreshCall) (call : RefreshCall)
      (inventory : List Minion) (hlast : IsLastDiscovered past inventory)
      (hvain : Asks py unicode config interval past call →
        ∃ e, discover py unicode config call.answers = .error e) :
      IsLastDiscovered (past ++ [call]) inventory

/-- What the provider knows is the last inventory that was discovered, and it
knows nothing only when every discovery has failed. -/
def Remembers (past : List RefreshCall) : Option (List Minion) → Prop
  | none => ∀ call ∈ past,
      ∃ e, discover py unicode config call.answers = .error e
  | some inventory =>
      IsLastDiscovered py unicode config interval past inventory

variable {py unicode config interval}

theorem providerAfter_concat (past : List RefreshCall) (call : RefreshCall) :
    providerAfter py unicode config interval (past ++ [call]) =
      ((providerAfter py unicode config interval past).refresh py unicode
        config interval call).2 :=
  stateAfter_concat _ _ past call

/-- What a refresh remembers and what it returns. -/
theorem Remembers.refresh {past : List RefreshCall}
    (h : Remembers py unicode config interval past
      (providerAfter py unicode config interval past).lastGood)
    (call : RefreshCall) :
    Remembers py unicode config interval (past ++ [call])
        (providerAfter py unicode config interval (past ++ [call])).lastGood ∧
      (providerAfter py unicode config interval (past ++ [call])).lastGood =
        (refreshed py unicode config interval past call).toOption := by
  rw [providerAfter_concat, refreshed]
  generalize hprovider : providerAfter py unicode config interval past =
    provider at h ⊢
  have hasks : Asks py unicode config interval past call ↔
      call.reuses interval provider = false := by
    rw [Asks, hprovider]
  rw [InventoryProvider.refresh]
  split
  next hreuses =>
    simp only [RefreshCall.reuses, Bool.and_eq_true] at hreuses
    obtain ⟨known, hknown⟩ := Option.isSome_iff_exists.mp hreuses.1.2
    rw [hknown] at h ⊢
    refine ⟨IsLastDiscovered.kept past call known h ?_, rfl⟩
    intro hask
    have hfresh := hasks.mp hask
    simp [RefreshCall.reuses, hreuses] at hfresh
  next hstale =>
    have hask : Asks py unicode config interval past call :=
      hasks.mpr (Bool.eq_false_iff.mpr hstale)
    split
    next discovered hdiscovered =>
      exact ⟨IsLastDiscovered.answered past call discovered hask hdiscovered,
        rfl⟩
    next e hfailed =>
      split
      next hnone =>
        rw [hnone] at h ⊢
        refine ⟨?_, rfl⟩
        intro other hother
        rcases List.mem_append.mp hother with hold | hnew
        · exact h other hold
        · obtain rfl := List.mem_singleton.mp hnew
          exact ⟨e, hfailed⟩
      next known hknown =>
        rw [hknown] at h ⊢
        exact ⟨IsLastDiscovered.kept past call known h fun _ => ⟨e, hfailed⟩,
          rfl⟩

theorem remembers (py : Interpreter) (unicode : UnicodeText)
    (config : InventoryConfig) (interval : ℚ) (past : List RefreshCall) :
    Remembers py unicode config interval past
      (providerAfter py unicode config interval past).lastGood := by
  induction past using List.reverseRecOn with
  | nil =>
      intro call hcall
      cases hcall
  | append_singleton past call ih => exact (ih.refresh call).1

/-- After any refreshes, a refresh returns the inventory of the last discovery
that was answered, its own if it asks; it raises only while no discovery has
been answered. -/
theorem refreshed_is_last_discovered (py : Interpreter)
    (unicode : UnicodeText) (config : InventoryConfig) (interval : ℚ)
    (past : List RefreshCall) (call : RefreshCall) :
    match refreshed py unicode config interval past call with
    | .ok inventory => IsLastDiscovered py unicode config interval
        (past ++ [call]) inventory
    | .error _ => ∀ other ∈ past ++ [call],
        ∃ e, discover py unicode config other.answers = .error e := by
  obtain ⟨hremembers, hresult⟩ :=
    (remembers py unicode config interval past).refresh call
  rw [hresult] at hremembers
  cases hcase : refreshed py unicode config interval past call with
  | ok inventory =>
      rw [hcase] at hremembers
      exact hremembers
  | error e =>
      rw [hcase] at hremembers
      exact hremembers

end History

end UyuniAgent.Inventory
