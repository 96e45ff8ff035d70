import Mathlib.Logic.Function.Basic
import UyuniAgent.Support.PyText
import UyuniAgent.Support.Run

/-!
# Concurrent calls and the allowlist

`_call` checks its target against the allowlist once, and then waits: for the
lock of the login, for the login, for a permit of `salt_semaphore`, and after an
expired session for the login again.  The poll loop may replace the allowlist at
any of these points.
-/

namespace UyuniAgent.Salt

open Transition

/-! ## Calls in progress -/

/-- Where a call waits.  `retry` tells the login after an expired session, when
the call holds a permit, from the one before the first request. -/
inductive CallPhase
  | awaitingLock (retry : Bool)
  | loggingIn (retry : Bool)
  | awaitingPermit
  | posted
  | retried
  deriving DecidableEq

def CallPhase.holdsPermit : CallPhase → Bool
  | .awaitingLock retry => retry
  | .loggingIn retry => retry
  | .awaitingPermit => false
  | .posted => true
  | .retried => true

def CallPhase.holdsLock : CallPhase → Bool
  | .loggingIn _ => true
  | _ => false

/-- The call may still send a lowstate. -/
def CallPhase.mayPost (phase : CallPhase) : Bool := phase ≠ .retried

structure CallState where
  target : String
  phase : CallPhase
  deriving DecidableEq

/-- A lowstate that was sent, with the allowlist at that moment. -/
structure Dispatch where
  target : String
  allowedMinions : List String
  deriving DecidableEq

structure ClientRun where
  allowedMinions : List String
  loggedIn : Bool
  lockHeld : Bool
  permits : ℕ
  calls : ℕ → Option CallState
  sent : List Dispatch

inductive ClientEvent
  | replaceAllowedMinions (minionIds : List String)
  | begin (id : ℕ) (target : String)
  /-- Another user of the session logs in, or gives the session up. -/
  | session (loggedIn : Bool)
  | lock (id : ℕ)
  | loginAnswered (id : ℕ) (succeeded : Bool)
  | permit (id : ℕ)
  | answered (id : ℕ) (unauthorized : Bool)
  | retryAnswered (id : ℕ)
  | cancel (id : ℕ)
  deriving DecidableEq

/-- The identifiers that `replace_allowed_minions` keeps. -/
def normalizedMinions (minionIds : List String) : List String :=
  (minionIds.map PyText.strip).filter (· ≠ "")

namespace ClientRun

def initial (allowedMinions : List String) (permits : ℕ) : ClientRun :=
  ⟨allowedMinions, false, false, permits, fun _ => none, []⟩

def setCall (s : ClientRun) (id : ℕ) (call : Option CallState) : ClientRun :=
  { s with calls := Function.update s.calls id call }

/-- `client.post(self.url, json=[lowstate])`. -/
def post (s : ClientRun) (id : ℕ) (target : String) (phase : CallPhase) :
    ClientRun :=
  { s.setCall id (some ⟨target, phase⟩) with
    sent := ⟨target, s.allowedMinions⟩ :: s.sent }

/-- The call ends, and gives back the lock and the permit that it holds. -/
def finish (s : ClientRun) (id : ℕ) (phase : CallPhase) : ClientRun :=
  { s.setCall id none with
    lockHeld := s.lockHeld && !phase.holdsLock
    permits := if phase.holdsPermit then s.permits + 1 else s.permits }

/-- `_ensure_login` returned: a retried call sends its lowstate at once. -/
def ensured (s : ClientRun) (id : ℕ) (target : String) (retry : Bool) :
    ClientRun :=
  if retry then s.post id target .retried
  else s.setCall id (some ⟨target, .awaitingPermit⟩)

def step (s : ClientRun) : ClientEvent → Option ClientRun
  | .replaceAllowedMinions minionIds =>
      some { s with allowedMinions := normalizedMinions minionIds }
  | .begin id target =>
      if s.calls id = none ∧ target ∈ s.allowedMinions then
        if s.loggedIn then some (s.ensured id target false)
        else some (s.setCall id (some ⟨target, .awaitingLock false⟩))
      else none
  | .session loggedIn => some { s with loggedIn := loggedIn }
  | .lock id =>
      match s.calls id with
      | some ⟨target, .awaitingLock retry⟩ =>
          if s.lockHeld then none
          else if s.loggedIn then some (s.ensured id target retry)
          else
            some ({ s with lockHeld := true }.setCall id
              (some ⟨target, .loggingIn retry⟩))
      | _ => none
  | .loginAnswered id succeeded =>
      match s.calls id with
      | some ⟨target, .loggingIn retry⟩ =>
          if succeeded then
            some ({ s with
              loggedIn := true, lockHeld := false }.ensured id target retry)
          else
            some ({ s with loggedIn := false }.finish id (.loggingIn retry))
      | _ => none
  | .permit id =>
      match s.calls id with
      | some ⟨target, .awaitingPermit⟩ =>
          if 0 < s.permits then
            some ({ s with permits := s.permits - 1 }.post id target .posted)
          else none
      | _ => none
  | .answered id unauthorized =>
      match s.calls id with
      | some ⟨target, .posted⟩ =>
          if unauthorized then
            some ({ s with loggedIn := false }.setCall id
              (some ⟨target, .awaitingLock true⟩))
          else some (s.finish id .posted)
      | _ => none
  | .retryAnswered id =>
      match s.calls id with
      | some ⟨_, .retried⟩ => some (s.finish id .retried)
      | _ => none
  | .cancel id =>
      match s.calls id with
      | some call => some (s.finish id call.phase)
      | none => none

/-! ## Trusted targets -/

/-- Every lowstate was sent to a minion that was trusted at that moment. -/
def SentTrusted (s : ClientRun) : Prop :=
  ∀ dispatch ∈ s.sent, dispatch.target ∈ dispatch.allowedMinions

/-- A replacement of the allowlist keeps the targets of the calls that may
still send something. -/
def KeepsTargets (s : ClientRun) (e : ClientEvent) : Prop :=
  ∀ minionIds, e = .replaceAllowedMinions minionIds →
    ∀ id call, s.calls id = some call → call.phase.mayPost = true →
      call.target ∈ normalizedMinions minionIds

/-- The calls that may still send something have trusted targets. -/
structure Trusted (s : ClientRun) : Prop where
  sent : s.SentTrusted
  calls : ∀ id call, s.calls id = some call → call.phase.mayPost = true →
    call.target ∈ s.allowedMinions

namespace Trusted

variable {s s' : ClientRun} {id : ℕ} {target : String}

theorem initial (allowedMinions : List String) (permits : ℕ) :
    Trusted (.initial allowedMinions permits) := by
  constructor
  · intro dispatch hdispatch
    cases hdispatch
  · intro id call hcall
    cases hcall

/-- A step that leaves the allowlist and the sent lowstates alone, and gives one
call a new state. -/
theorem of_setCall (h : s.Trusted) {call : Option CallState}
    (hcall : ∀ state, call = some state → state.target ∈ s.allowedMinions)
    (hallowed : s'.allowedMinions = s.allowedMinions)
    (hsent : s'.sent = s.sent)
    (hcalls : s'.calls = Function.update s.calls id call) : s'.Trusted := by
  constructor
  · rw [SentTrusted, hsent]
    exact h.sent
  · intro other state hstate hpost
    rw [hcalls] at hstate
    rw [hallowed]
    by_cases hother : other = id
    · rw [hother, Function.update_self] at hstate
      exact hcall state hstate
    · rw [Function.update_of_ne hother] at hstate
      exact h.calls other state hstate hpost

theorem finish (h : s.Trusted) (phase : CallPhase) :
    (s.finish id phase).Trusted :=
  @of_setCall s _ id h none (fun _ hnone => nomatch hnone) rfl rfl rfl

theorem post (h : s.Trusted) (htarget : target ∈ s.allowedMinions)
    (phase : CallPhase) : (s.post id target phase).Trusted := by
  have hmoved : (s.setCall id (some ⟨target, phase⟩)).Trusted := by
    refine h.of_setCall ?_ rfl rfl rfl
    intro state hstate
    obtain rfl := Option.some.inj hstate
    exact htarget
  refine ⟨?_, hmoved.calls⟩
  intro dispatch hdispatch
  rcases List.mem_cons.mp hdispatch with rfl | hold
  · exact htarget
  · exact h.sent dispatch hold

theorem wait (h : s.Trusted) (htarget : target ∈ s.allowedMinions)
    (phase : CallPhase) : (s.setCall id (some ⟨target, phase⟩)).Trusted := by
  refine h.of_setCall ?_ rfl rfl rfl
  intro state hstate
  obtain rfl := Option.some.inj hstate
  exact htarget

theorem ensured (h : s.Trusted) (htarget : target ∈ s.allowedMinions)
    (retry : Bool) : (s.ensured id target retry).Trusted := by
  rw [ClientRun.ensured]
  split
  · exact h.post htarget .retried
  · exact h.wait htarget .awaitingPermit

/-- The session, the lock and the permits concern no target. -/
theorem withSession (h : s.Trusted) (loggedIn lockHeld : Bool) (permits : ℕ) :
    Trusted { s with
      loggedIn := loggedIn, lockHeld := lockHeld, permits := permits } :=
  ⟨h.sent, h.calls⟩

theorem step (h : s.Trusted) {e : ClientEvent} (hkeeps : KeepsTargets s e)
    (hstep : s.step e = some s') : s'.Trusted := by
  have htrusted {id : ℕ} {target : String} {phase : CallPhase}
      (hcall : s.calls id = some ⟨target, phase⟩)
      (hpost : phase.mayPost = true) : target ∈ s.allowedMinions :=
    h.calls id _ hcall hpost
  rcases e with minionIds | ⟨id, target⟩ | loggedIn | id | ⟨id, succeeded⟩ |
    id | ⟨id, unauthorized⟩ | id | id
  case replaceAllowedMinions =>
    obtain rfl := Option.some.inj hstep
    exact ⟨h.sent, hkeeps minionIds rfl⟩
  case begin =>
    simp only [ClientRun.step] at hstep
    split at hstep
    next hbegin =>
      split at hstep
      · obtain rfl := Option.some.inj hstep
        exact h.ensured hbegin.2 false
      · obtain rfl := Option.some.inj hstep
        exact h.wait hbegin.2 (.awaitingLock false)
    · cases hstep
  case session =>
    obtain rfl := Option.some.inj hstep
    exact h.withSession loggedIn s.lockHeld s.permits
  case lock =>
    simp only [ClientRun.step] at hstep
    split at hstep
    next target retry hcall =>
      have htarget := htrusted hcall rfl
      split at hstep
      · cases hstep
      · split at hstep
        · obtain rfl := Option.some.inj hstep
          exact h.ensured htarget retry
        · obtain rfl := Option.some.inj hstep
          exact (h.withSession s.loggedIn true s.permits).wait htarget
            (.loggingIn retry)
    · cases hstep
  case loginAnswered =>
    simp only [ClientRun.step] at hstep
    split at hstep
    next target retry hcall =>
      split at hstep
      · obtain rfl := Option.some.inj hstep
        exact (h.withSession true false s.permits).ensured
          (htrusted hcall rfl) retry
      · obtain rfl := Option.some.inj hstep
        exact (h.withSession false s.lockHeld s.permits).finish
          (.loggingIn retry)
    · cases hstep
  case permit =>
    simp only [ClientRun.step] at hstep
    split at hstep
    next target hcall =>
      split at hstep
      · obtain rfl := Option.some.inj hstep
        exact (h.withSession s.loggedIn s.lockHeld (s.permits - 1)).post
          (htrusted hcall rfl) .posted
      · cases hstep
    · cases hstep
  case answered =>
    simp only [ClientRun.step] at hstep
    split at hstep
    next target hcall =>
      split at hstep
      · obtain rfl := Option.some.inj hstep
        exact (h.withSession false s.lockHeld s.permits).wait
          (htrusted hcall rfl) (.awaitingLock true)
      · obtain rfl := Option.some.inj hstep
        exact h.finish .posted
    · cases hstep
  case retryAnswered =>
    simp only [ClientRun.step] at hstep
    split at hstep
    · obtain rfl := Option.some.inj hstep
      exact h.finish .retried
    · cases hstep
  case cancel =>
    simp only [ClientRun.step] at hstep
    split at hstep
    next call _ =>
      obtain rfl := Option.some.inj hstep
      exact h.finish call.phase
    · cases hstep

end Trusted

/-- While every replacement keeps the targets of the calls in progress, every
lowstate is sent to a trusted minion. -/
theorem sent_trusted_of_keepsTargets (allowedMinions : List String)
    (permits : ℕ) (trace : List ClientEvent)
    (hkeeps : EveryStep step (initial allowedMinions permits) trace
      KeepsTargets) :
    EveryState step (initial allowedMinions permits) trace SentTrusted := by
  intro past hpast s hs
  have htrusted : s.Trusted :=
    exec_invariant (Trusted.initial allowedMinions permits)
      (fun _ _ _ h hkeep hstep => h.step hkeep hstep)
      (hkeeps.of_prefix hpast) hs
  exact htrusted.sent

/-! ## Two traces -/

/-- A call that logs in first, sends its lowstate and sends it again after the
session expired. -/
def retriedCall : List ClientEvent :=
  [.begin 0 "web", .lock 0, .loginAnswered 0 true, .permit 0,
    .answered 0 true, .lock 0, .loginAnswered 0 true, .retryAnswered 0]

theorem sent_trusted_of_keepsTargets_retried :
    EveryStep step (initial ["web"] 10) retriedCall KeepsTargets ∧
      EveryState step (initial ["web"] 10) retriedCall SentTrusted := by
  have hkeeps : EveryStep step (initial ["web"] 10) retriedCall
      KeepsTargets := by
    intro past e hpast s s' _ _ minionIds he
    have hmem : e ∈ retriedCall :=
      hpast.subset (List.mem_append_right past (List.mem_singleton_self e))
    rw [he] at hmem
    simp [retriedCall] at hmem
  exact ⟨hkeeps, sent_trusted_of_keepsTargets ["web"] 10 retriedCall hkeeps⟩

/-- The allowlist loses the target while the call logs in. -/
def removedDuringLogin : List ClientEvent :=
  [.begin 0 "web", .lock 0, .replaceAllowedMinions ["db"],
    .loginAnswered 0 true, .permit 0]

/-- A lowstate is sent to a minion that is not trusted any more. -/
theorem removed_minion_receives_command :
    ¬∀ (allowedMinions : List String) (permits : ℕ)
      (trace : List ClientEvent),
      EveryState step (initial allowedMinions permits) trace SentTrusted := by
  intro hall
  have hsent : (exec step (initial ["web"] 10) removedDuringLogin).map
      (·.sent) = some [⟨"web", ["db"]⟩] := by
    decide +kernel
  obtain ⟨s, hs, hlast⟩ := Option.map_eq_some_iff.mp hsent
  have htrusted := hall ["web"] 10 removedDuringLogin removedDuringLogin
    (List.prefix_refl _) s hs
  have hmem := htrusted ⟨"web", ["db"]⟩ (by simp [hlast])
  exact absurd hmem (by decide)

end ClientRun

end UyuniAgent.Salt
