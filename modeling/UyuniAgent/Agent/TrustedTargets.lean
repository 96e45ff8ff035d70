import UyuniAgent.Inventory.Discovery
import UyuniAgent.Salt.Dispatch
import UyuniAgent.Support.JsonText

/-!
# Targets that Uyuni has listed

In every poll `run` refreshes the inventory and makes its minions the allowlist
of the Salt client; a refresh that raises leaves the allowlist alone.  Calls of
the client go on meanwhile.
-/

namespace UyuniAgent.Agent

open Inventory Salt Transition

/-! ## Calls of the client -/

/-- Everything that the client may address has the property. -/
structure Addresses (P : String → Prop) (s : ClientRun) : Prop where
  allowed : ∀ minionId ∈ s.allowedMinions, P minionId
  calls : ∀ id call, s.calls id = some call → P call.target
  sent : ∀ dispatch ∈ s.sent, P dispatch.target

namespace Addresses

variable {P : String → Prop} {s s' : ClientRun} {id : ℕ} {target : String}

theorem mono {Q : String → Prop} (h : Addresses P s) (hPQ : ∀ m, P m → Q m) :
    Addresses Q s :=
  ⟨fun m hm => hPQ m (h.allowed m hm),
    fun id call hcall => hPQ _ (h.calls id call hcall),
    fun dispatch hsent => hPQ _ (h.sent dispatch hsent)⟩

theorem withSession (h : Addresses P s) (loggedIn lockHeld : Bool)
    (permits : ℕ) :
    Addresses P { s with
      loggedIn := loggedIn, lockHeld := lockHeld, permits := permits } :=
  ⟨h.allowed, h.calls, h.sent⟩

theorem setCall (h : Addresses P s) {call : Option CallState}
    (hcall : ∀ state, call = some state → P state.target) :
    Addresses P (s.setCall id call) := by
  refine ⟨h.allowed, ?_, h.sent⟩
  intro other state hstate
  simp only [ClientRun.setCall, Function.update_apply] at hstate
  split at hstate
  · exact hcall state hstate
  · exact h.calls other state hstate

theorem wait (h : Addresses P s) (htarget : P target) (phase : CallPhase) :
    Addresses P (s.setCall id (some ⟨target, phase⟩)) := by
  apply h.setCall
  intro state hstate
  obtain rfl := Option.some.inj hstate
  exact htarget

theorem finish (h : Addresses P s) (phase : CallPhase) :
    Addresses P (s.finish id phase) := by
  have hended : Addresses P (s.setCall id none) :=
    h.setCall fun _ hnone => by cases hnone
  exact ⟨hended.allowed, hended.calls, hended.sent⟩

theorem post (h : Addresses P s) (htarget : P target) (phase : CallPhase) :
    Addresses P (s.post id target phase) := by
  have hposted : Addresses P (s.setCall id (some ⟨target, phase⟩)) :=
    h.wait htarget phase
  refine ⟨hposted.allowed, hposted.calls, ?_⟩
  intro dispatch hdispatch
  rcases List.mem_cons.mp hdispatch with rfl | hold
  · exact htarget
  · exact h.sent dispatch hold

theorem ensured (h : Addresses P s) (htarget : P target) (retry : Bool) :
    Addresses P (s.ensured id target retry) := by
  rw [ClientRun.ensured]
  split
  · exact h.post htarget .retried
  · exact h.wait htarget .awaitingPermit

theorem step (h : Addresses P s) {e : ClientEvent}
    (hreplaced : ∀ minionIds, e = .replaceAllowedMinions minionIds →
      ∀ minionId ∈ normalizedMinions minionIds, P minionId)
    (hstep : s.step e = some s') : Addresses P s' := by
  rcases e with minionIds | ⟨id, target⟩ | loggedIn | id | ⟨id, succeeded⟩ |
    id | ⟨id, unauthorized⟩ | id | id
  case replaceAllowedMinions =>
    obtain rfl := Option.some.inj hstep
    exact ⟨hreplaced minionIds rfl, h.calls, h.sent⟩
  case begin =>
    simp only [ClientRun.step] at hstep
    split at hstep
    next hbegin =>
      have htarget := h.allowed target hbegin.2
      split at hstep
      · obtain rfl := Option.some.inj hstep
        exact h.ensured htarget false
      · obtain rfl := Option.some.inj hstep
        exact h.wait htarget (.awaitingLock false)
    · cases hstep
  case session =>
    obtain rfl := Option.some.inj hstep
    exact h.withSession loggedIn s.lockHeld s.permits
  case lock =>
    simp only [ClientRun.step] at hstep
    split at hstep
    next target retry hcall =>
      have htarget := h.calls id _ hcall
      split at hstep
      · cases hstep
      · split at hstep
        · obtain rfl := Option.some.inj hstep
          exact h.ensured htarget retry
        · obtain rfl := Option.some.inj hstep
          exact (h.withSession s.loggedIn true s.permits).wait htarget
            (.loggingIn retry)
    · cases hstep
  case loginAnswered =>
    simp only [ClientRun.step] at hstep
    split at hstep
    next target retry hcall =>
      split at hstep
      · obtain rfl := Option.some.inj hstep
        exact (h.withSession true false s.permits).ensured
          (h.calls id _ hcall) retry
      · obtain rfl := Option.some.inj hstep
        exact (h.withSession false s.lockHeld s.permits).finish
          (.loggingIn retry)
    · cases hstep
  case permit =>
    simp only [ClientRun.step] at hstep
    split at hstep
    next target hcall =>
      split at hstep
      · obtain rfl := Option.some.inj hstep
        exact (h.withSession s.loggedIn s.lockHeld (s.permits - 1)).post
          (h.calls id _ hcall) .posted
      · cases hstep
    · cases hstep
  case answered =>
    simp only [ClientRun.step] at hstep
    split at hstep
    next target hcall =>
      split at hstep
      · obtain rfl := Option.some.inj hstep
        exact (h.withSession false s.lockHeld s.permits).wait
          (h.calls id _ hcall) (.awaitingLock true)
      · obtain rfl := Option.some.inj hstep
        exact h.finish .posted
    · cases hstep
  case retryAnswered =>
    simp only [ClientRun.step] at hstep
    split at hstep
    · obtain rfl := Option.some.inj hstep
      exact h.finish .retried
    · cases hstep
  case cancel =>
    simp only [ClientRun.step] at hstep
    split at hstep
    next call _ =>
      obtain rfl := Option.some.inj hstep
      exact h.finish call.phase
    · cases hstep

end Addresses

/-! ## Polls and calls -/

/-- The inventory provider of `run`, and its Salt client. -/
structure TrustState where
  provider : InventoryProvider
  client : ClientRun

inductive TrustEvent
  /-- A poll refreshes the inventory. -/
  | poll (call : RefreshCall)
  /-- Anything that happens to a call or to the session. -/
  | client (event : ClientEvent)

namespace TrustState

/-- The client starts with the minions of the configuration. -/
def initial (configured : List String) (permits : ℕ) : TrustState :=
  ⟨.initial, .initial configured permits⟩

variable (py : Interpreter) (unicode : UnicodeText) (config : InventoryConfig)
  (interval : ℚ)

/-- One step; only a poll replaces the allowlist. -/
def step (s : TrustState) : TrustEvent → Option TrustState
  | .poll call =>
      let (result, provider) := s.provider.refresh py unicode config interval
        call
      match result with
      | .error _ => some { s with provider := provider }
      | .ok minions =>
          (s.client.step
            (.replaceAllowedMinions (minions.map (·.id)))).map
              fun client => ⟨provider, client⟩
  | .client (.replaceAllowedMinions _) => none
  | .client event =>
      (s.client.step event).map fun client => { s with client := client }

/-- The refreshes of a run. -/
def refreshes (past : List TrustEvent) : List RefreshCall :=
  past.filterMap fun e =>
    match e with
    | .poll call => some call
    | .client _ => none

/-- Some poll of the run asked Uyuni and was answered with the minion. -/
def ListedIn (past : List TrustEvent) (minionId : String) : Prop :=
  ∃ before call, before ++ [TrustEvent.poll call] <+: past ∧
    Asks py unicode config interval (refreshes before) call ∧
    call.answers.Lists py minionId

/-- Every minion of a known inventory was listed. -/
def AllListed (past : List TrustEvent) (inventory? : Option (List Minion)) :
    Prop :=
  ∀ inventory, inventory? = some inventory → ∀ minion ∈ inventory,
    ListedIn py unicode config interval past minion.id

/-- The minions that the provider knows and that the client may address were
listed by Uyuni, or are configured. -/
structure Listed (configured : List String) (past : List TrustEvent)
    (s : TrustState) : Prop where
  refreshed :
    s.provider = providerAfter py unicode config interval (refreshes past)
  provider : AllListed py unicode config interval past s.provider.lastGood
  client : Addresses (fun minionId => minionId ∈ configured ∨
    ListedIn py unicode config interval past minionId) s.client

variable {py unicode config interval}

theorem ListedIn.mono {past past' : List TrustEvent} {minionId : String}
    (h : ListedIn py unicode config interval past minionId)
    (hpast : past <+: past') :
    ListedIn py unicode config interval past' minionId := by
  obtain ⟨before, call, hbefore, hlists⟩ := h
  exact ⟨before, call, hbefore.trans hpast, hlists⟩

theorem AllListed.mono {past past' : List TrustEvent}
    {inventory? : Option (List Minion)}
    (h : AllListed py unicode config interval past inventory?)
    (hpast : past <+: past') :
    AllListed py unicode config interval past' inventory? :=
  fun inventory hinventory minion hminion =>
    (h inventory hinventory minion hminion).mono hpast

/-- A refresh knows and returns only listed minions. -/
theorem allListed_refresh {past : List TrustEvent}
    {provider : InventoryProvider} {call : RefreshCall}
    (hprovider :
      provider = providerAfter py unicode config interval (refreshes past))
    (h : AllListed py unicode config interval past provider.lastGood)
    {result : Except DiscoveryException (List Minion)}
    {next : InventoryProvider}
    (hrefresh : provider.refresh py unicode config interval call =
      (result, next)) :
    AllListed py unicode config interval (past ++ [.poll call])
        next.lastGood ∧
      ∀ inventory, result = .ok inventory → AllListed py unicode config
        interval (past ++ [.poll call]) (some inventory) := by
  have hkept := h.mono (List.prefix_append past [.poll call])
  rw [InventoryProvider.refresh] at hrefresh
  split at hrefresh
  next hreuses =>
    obtain ⟨rfl, rfl⟩ := Prod.mk.inj hrefresh
    refine ⟨hkept, ?_⟩
    intro inventory hinventory
    obtain rfl := Except.ok.inj hinventory
    simp only [RefreshCall.reuses, Bool.and_eq_true] at hreuses
    obtain ⟨known, hknown⟩ := Option.isSome_iff_exists.mp hreuses.1.2
    rw [hknown] at hkept ⊢
    exact hkept
  next hstale =>
    split at hrefresh
    next discovered hdiscovered =>
      obtain ⟨rfl, rfl⟩ := Prod.mk.inj hrefresh
      have hasks : Asks py unicode config interval (refreshes past) call := by
        rw [Asks, ← hprovider]
        exact Bool.eq_false_iff.mpr hstale
      have hlisted : AllListed py unicode config interval
          (past ++ [.poll call]) (some discovered) := by
        intro inventory hinventory minion hminion
        obtain rfl := Option.some.inj hinventory
        exact ⟨past, call, List.prefix_refl _, hasks,
          lists_of_discovered hdiscovered hminion⟩
      refine ⟨hlisted, ?_⟩
      intro inventory hinventory
      obtain rfl := Except.ok.inj hinventory
      exact hlisted
    next e _ =>
      split at hrefresh
      next =>
        obtain ⟨rfl, rfl⟩ := Prod.mk.inj hrefresh
        exact ⟨hkept, fun _ herror => by cases herror⟩
      next known hknown =>
        obtain ⟨rfl, rfl⟩ := Prod.mk.inj hrefresh
        refine ⟨hkept, ?_⟩
        intro inventory hinventory
        obtain rfl := Except.ok.inj hinventory
        rwa [hknown] at hkept

theorem step_client {s s' : TrustState} {event : ClientEvent}
    (h : s.step py unicode config interval (.client event) = some s') :
    (∀ minionIds, event ≠ .replaceAllowedMinions minionIds) ∧
      ∃ client, s.client.step event = some client ∧
        s' = { s with client := client } := by
  cases event
  case replaceAllowedMinions => cases h
  all_goals
    simp only [TrustState.step] at h
    obtain ⟨client, hclient, rfl⟩ := Option.map_eq_some_iff.mp h
    refine ⟨?_, client, hclient, rfl⟩
    intro minionIds heq
    cases heq

/-- A listed ID has no blanks around it. -/
theorem ListedIn.strip {past : List TrustEvent} {minionId : String}
    (h : ListedIn py unicode config interval past minionId) :
    PyText.strip minionId = minionId := by
  obtain ⟨-, call, -, -, active, idMap, items, members, item, key, value,
    -, -, -, -, -, -, hkey, -⟩ := h
  rw [← hkey]
  exact strip_strip key

theorem Listed.step {configured : List String} {past : List TrustEvent}
    {s s' : TrustState} {e : TrustEvent}
    (h : Listed py unicode config interval configured past s)
    (hstep : s.step py unicode config interval e = some s') :
    Listed py unicode config interval configured (past ++ [e]) s' := by
  have hpast : past <+: past ++ [e] := List.prefix_append past [e]
  have hclient : Addresses (fun minionId => minionId ∈ configured ∨
      ListedIn py unicode config interval (past ++ [e]) minionId) s.client :=
    h.client.mono fun minionId hminion =>
      hminion.imp_right fun hlisted => hlisted.mono hpast
  rcases e with call | event
  case poll =>
    simp only [TrustState.step] at hstep
    rcases hrefresh : s.provider.refresh py unicode config interval call with
      ⟨result, provider⟩
    obtain ⟨hknown, hreturned⟩ :=
      allListed_refresh h.refreshed h.provider hrefresh
    have hrefreshed : provider = providerAfter py unicode config interval
        (refreshes (past ++ [.poll call])) := by
      have hlast : refreshes (past ++ [.poll call]) =
          refreshes past ++ [call] := by
        simp [refreshes]
      rw [hlast, providerAfter_concat, ← h.refreshed, hrefresh]
    rw [hrefresh] at hstep
    rcases result with e | minions
    · obtain rfl := Option.some.inj hstep
      exact ⟨hrefreshed, hknown, hclient⟩
    · obtain ⟨client, hreplaced, rfl⟩ := Option.map_eq_some_iff.mp hstep
      refine ⟨hrefreshed, hknown, hclient.step ?_ hreplaced⟩
      intro minionIds heq minionId hmem
      obtain rfl := ClientEvent.replaceAllowedMinions.inj heq
      simp only [normalizedMinions, List.mem_filter, List.mem_map] at hmem
      obtain ⟨⟨name, ⟨minion, hminion, rfl⟩, rfl⟩, -⟩ := hmem
      have hlisted := hreturned minions rfl minions rfl minion hminion
      rw [hlisted.strip]
      exact Or.inr hlisted
  case client =>
    obtain ⟨hother, client, hevent, rfl⟩ := step_client hstep
    refine ⟨?_, h.provider.mono hpast, hclient.step
      (fun minionIds heq => absurd heq (hother minionIds)) hevent⟩
    have hsame : refreshes (past ++ [.client event]) = refreshes past := by
      simp [refreshes]
    rw [hsame]
    exact h.refreshed

/-- In every run, a lowstate is sent only to a configured minion or to one that
Uyuni, when an earlier poll asked it, listed as active. -/
theorem sent_to_listed_minions {configured : List String} {permits : ℕ}
    {trace : List TrustEvent} {s : TrustState}
    (hs : exec (step py unicode config interval) (initial configured permits)
      trace = some s) :
    ∀ dispatch ∈ s.client.sent, dispatch.target ∈ configured ∨
      ListedIn py unicode config interval trace dispatch.target := by
  have hlisted : Listed py unicode config interval configured trace s := by
    refine exec_induction (C := fun _ _ => True)
      (P := fun past s =>
        Listed py unicode config interval configured past s) ?_ ?_
      (everyStep_true _ _ trace) hs
    · refine ⟨rfl, nofun, ?_, nofun, nofun⟩
      exact fun minionId hmem => Or.inl hmem
    · intro past s e s' _ h _ hstep
      exact h.step hstep
  exact hlisted.client.sent

/-- A reply with the value as its body. -/
def jsonReply (value : PyValue) : HttpReply :=
  .response 200 "" (some (Json.dumps ordinaryInterpreter value))

def loggedInExchange (value : PyValue) : UyuniExchange where
  loggedIn := true
  loginReply := .failed ""
  answer := jsonReply value
  reloginReply := .failed ""
  retried := .failed ""

/-- Uyuni lists one active system, and Prometheus a target of another. -/
def webListed : RefreshCall where
  force := false
  now := 0
  answers :=
    { active := loggedInExchange (.dict [("result",
        .list [.list [.dict [("id", .int 7), ("name", .str "web")]]])])
      idMap := loggedInExchange (.dict [("result",
        .dict [("web.example", .int 7), ("db.example", .int 8)])])
      targets := jsonReply (.dict [("status", .str "success"),
        ("data", .dict [("activeTargets",
          .list [.dict (nodeTarget "db.example:9100")])])])
      invalidJson := ""
      order := .firstSeen }
  finishedAt := 1

/-- A call waits for its login while Uyuni stops answering. -/
def outageTrace : List TrustEvent :=
  [.poll webListed, .client (.begin 0 "web.example"),
    .poll { webListed with
      now := 60
      answers := { webListed.answers with
        active := ⟨true, .failed "", .failed "timeout", .failed "",
          .failed ""⟩ } },
    .client (.lock 0), .client (.loginAnswered 0 true), .client (.permit 0)]

theorem sent_to_listed_minions_outage :
    ∃ s, exec (step ordinaryInterpreter .ascii ordinaryConfig 60)
        (initial [] 10) outageTrace = some s ∧
      s.client.sent = [⟨"web.example", ["web.example"]⟩] ∧
      ∀ dispatch ∈ s.client.sent, dispatch.target ∈ ([] : List String) ∨
        ListedIn ordinaryInterpreter .ascii ordinaryConfig 60 outageTrace
          dispatch.target := by
  have hrun : (exec (step ordinaryInterpreter .ascii ordinaryConfig 60)
      (initial [] 10) outageTrace).any
        (fun s => s.client.sent = [⟨"web.example", ["web.example"]⟩]) =
      true := by
    decide +kernel
  obtain ⟨s, hs, hsent⟩ := Option.any_eq_true _ _ |>.mp hrun
  exact ⟨s, hs, of_decide_eq_true hsent, sent_to_listed_minions hs⟩

end TrustState

end UyuniAgent.Agent
