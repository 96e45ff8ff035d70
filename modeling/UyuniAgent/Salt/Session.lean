import UyuniAgent.Salt.Dispatch

/-!
# An expired session

The calls of `Dispatch.lean` on one session that the server gives up: it
answers 401 to what was sent with the old cookies, and accepts what is sent
after a login has succeeded.  No one but the calls logs in.
-/

namespace UyuniAgent.Salt

open Transition

structure SessionRun where
  client : ClientRun
  /-- The number of the session whose cookies the client has. -/
  session : ℕ
  /-- The session that a call has sent its lowstate in. -/
  sentIn : ℕ → ℕ
  expired : Bool
  /-- The login requests so far. -/
  logins : ℕ

inductive SessionEvent
  /-- The server gives up the first session. -/
  | expire
  | call (e : ClientEvent)
  deriving DecidableEq

/-- The call that goes on, with the cookies of that moment if it sends
something. -/
def ClientEvent.sender : ClientEvent → Option ℕ
  | .lock id => some id
  | .loginAnswered id _ => some id
  | .permit id => some id
  | _ => none

namespace SessionRun

/-- A client that is logged in, without any calls. -/
def initial (allowedMinions : List String) (permits : ℕ) : SessionRun where
  client := { ClientRun.initial allowedMinions permits with loggedIn := true }
  session := 0
  sentIn := fun _ => 0
  expired := false
  logins := 0

/-- What the server may answer.  A lowstate of the first session may have been
accepted before that expired. -/
def mayHappen (s : SessionRun) : ClientEvent → Bool
  | .session _ => false
  | .answered id true => s.expired && s.sentIn id = 0
  | _ => true

/-- The session after an event. -/
def sessionAfter (s : SessionRun) : ClientEvent → ℕ
  | .loginAnswered _ true => s.session + 1
  | _ => s.session

/-- A login request is sent by the call that takes the lock. -/
def advance (s : SessionRun) (e : ClientEvent) (client : ClientRun) :
    SessionRun where
  client := client
  session := s.sessionAfter e
  sentIn :=
    match e.sender with
    | some id => Function.update s.sentIn id (s.sessionAfter e)
    | none => s.sentIn
  expired := s.expired
  logins :=
    if client.lockHeld && !s.client.lockHeld then s.logins + 1 else s.logins

def step (s : SessionRun) : SessionEvent → Option SessionRun
  | .expire => some { s with expired := true }
  | .call e =>
      if s.mayHappen e then (s.client.step e).map (s.advance e) else none

/-- A 401 is handled before a login has succeeded, and no login request goes
wrong or is given up. -/
def InTime (s : SessionRun) : SessionEvent → Prop
  | .call (.answered id true) => s.sentIn id = s.session
  | .call (.loginAnswered _ succeeded) => succeeded = true
  | .call (.cancel id) =>
      ∀ call, s.client.calls id = some call → call.phase.holdsLock = false
  | _ => True

def OneLogin (s : SessionRun) : Prop := s.logins ≤ 1

end SessionRun

/-! ## Who holds the lock -/

namespace ClientRun

def LoggingIn (s : ClientRun) (id : ℕ) : Prop :=
  ∃ call, s.calls id = some call ∧ call.phase.holdsLock = true

/-- The lock is held by the only call that logs in, if any. -/
structure LockInvariant (s : ClientRun) : Prop where
  held : ∀ id, s.LoggingIn id → s.lockHeld = true
  unique : ∀ id other, s.LoggingIn id → s.LoggingIn other → id = other

variable {s s' : ClientRun} {id : ℕ}

theorem loggingIn_of_update {call : Option CallState}
    (hcalls : s'.calls = Function.update s.calls id call)
    (hcall : ∀ state, call = some state → state.phase.holdsLock = false)
    {other : ℕ} (h : s'.LoggingIn other) : s.LoggingIn other ∧ other ≠ id := by
  obtain ⟨state, hstate, hlock⟩ := h
  rw [hcalls] at hstate
  by_cases hother : other = id
  · rw [hother, Function.update_self] at hstate
    exact absurd hlock (by rw [hcall state hstate]; exact Bool.false_ne_true)
  · rw [Function.update_of_ne hother] at hstate
    exact ⟨⟨state, hstate, hlock⟩, hother⟩

/-- What a step does to the flag, the lock and the calls that log in, when no
login request is lost. -/
inductive LoginMoves (s : ClientRun) (e : ClientEvent) (s' : ClientRun) : Prop
  | keeps (hlock : s'.lockHeld = s.lockHeld)
      (hflag : s'.loggedIn = s.loggedIn ∨ ∃ id, e = .answered id true)
      (hcalls : ∀ id, s'.LoggingIn id → s.LoggingIn id)
      (hother : ∀ id, e ≠ .loginAnswered id true)
  | takes (id : ℕ) (hevent : e = .lock id) (hfree : s.lockHeld = false)
      (hflag : s.loggedIn = false) (hlock : s'.lockHeld = true)
      (hcalls : ∀ other, s'.LoggingIn other → s.LoggingIn other ∨ other = id)
  | answers (id : ℕ) (hevent : e = .loginAnswered id true)
      (hlogging : s.LoggingIn id) (hlock : s'.lockHeld = false)
      (hflag : s'.loggedIn = true)
      (hcalls : ∀ other, s'.LoggingIn other → s.LoggingIn other ∧ other ≠ id)

/-- A step that gives a call which does not log in a new state. -/
theorem LoginMoves.of_update {e : ClientEvent} {call : Option CallState}
    (hcalls : s'.calls = Function.update s.calls id call)
    (hcall : ∀ state, call = some state → state.phase.holdsLock = false)
    (hlock : s'.lockHeld = s.lockHeld)
    (hflag : s'.loggedIn = s.loggedIn ∨ ∃ id, e = .answered id true)
    (hother : ∀ id, e ≠ .loginAnswered id true) : s.LoginMoves e s' :=
  .keeps hlock hflag (fun _ h => (loggingIn_of_update hcalls hcall h).1) hother

theorem calls_ensured (s : ClientRun) (id : ℕ) (target : String)
    (retry : Bool) :
    ∃ call, (s.ensured id target retry).calls =
        Function.update s.calls id (some call) ∧
      call.phase.holdsLock = false := by
  rw [ensured]
  split
  · exact ⟨⟨target, .retried⟩, rfl, rfl⟩
  · exact ⟨⟨target, .awaitingPermit⟩, rfl, rfl⟩

@[simp] theorem lockHeld_ensured (s : ClientRun) (id : ℕ) (target : String)
    (retry : Bool) : (s.ensured id target retry).lockHeld = s.lockHeld := by
  rw [ensured]
  split
  · rfl
  · rfl

@[simp] theorem loggedIn_ensured (s : ClientRun) (id : ℕ) (target : String)
    (retry : Bool) : (s.ensured id target retry).loggedIn = s.loggedIn := by
  rw [ensured]
  split
  · rfl
  · rfl

theorem LoginMoves.of_ensured {e : ClientEvent} {target : String}
    {retry : Bool} (hother : ∀ id, e ≠ .loginAnswered id true) :
    s.LoginMoves e (s.ensured id target retry) := by
  obtain ⟨call, hcalls, hcall⟩ := s.calls_ensured id target retry
  refine .of_update hcalls ?_ (s.lockHeld_ensured id target retry)
    (Or.inl (s.loggedIn_ensured id target retry)) hother
  intro state hstate
  obtain rfl := Option.some.inj hstate
  exact hcall

theorem LoginMoves.of_finish {e : ClientEvent} {phase : CallPhase}
    (hphase : phase.holdsLock = false)
    (hother : ∀ id, e ≠ .loginAnswered id true) :
    s.LoginMoves e (s.finish id phase) := by
  refine @of_update s _ id e none rfl (fun _ h => nomatch h) ?_ (Or.inl rfl)
    hother
  change (s.lockHeld && !phase.holdsLock) = s.lockHeld
  rw [hphase, Bool.not_false, Bool.and_true]

theorem LoginMoves.of_step {e : ClientEvent}
    (hsession : ∀ loggedIn, e ≠ .session loggedIn)
    (hfailed : ∀ id, e ≠ .loginAnswered id false)
    (hcancel : ∀ id, e = .cancel id → ¬s.LoggingIn id)
    (hstep : s.step e = some s') : s.LoginMoves e s' := by
  rcases e with minionIds | ⟨id, target⟩ | loggedIn | id | ⟨id, succeeded⟩ |
    id | ⟨id, unauthorized⟩ | id | id
  case replaceAllowedMinions =>
    obtain rfl := Option.some.inj hstep
    exact .keeps rfl (Or.inl rfl) (fun _ h => h) (by simp)
  case begin =>
    simp only [ClientRun.step] at hstep
    split at hstep
    · split at hstep
      · obtain rfl := Option.some.inj hstep
        exact .of_ensured (by simp)
      · obtain rfl := Option.some.inj hstep
        refine .of_update rfl ?_ rfl (Or.inl rfl) (by simp)
        intro state hstate
        obtain rfl := Option.some.inj hstate
        rfl
    · cases hstep
  case session => exact absurd rfl (hsession loggedIn)
  case lock =>
    simp only [ClientRun.step] at hstep
    split at hstep
    next target retry hcall =>
      split at hstep
      · cases hstep
      next hfree =>
        split at hstep
        · obtain rfl := Option.some.inj hstep
          exact .of_ensured (by simp)
        next hflag =>
          obtain rfl := Option.some.inj hstep
          refine .takes id rfl (Bool.not_eq_true _ ▸ hfree)
            (Bool.not_eq_true _ ▸ hflag) rfl ?_
          intro other hother
          by_cases heq : other = id
          · exact Or.inr heq
          · obtain ⟨state, hstate, hlock⟩ := hother
            have hold : s.calls other = some state := by
              rw [← hstate]
              exact (Function.update_of_ne heq _ _).symm
            exact Or.inl ⟨state, hold, hlock⟩
    · cases hstep
  case loginAnswered =>
    rcases succeeded with _ | _
    · exact absurd rfl (hfailed id)
    · simp only [ClientRun.step] at hstep
      split at hstep
      next target retry hcall =>
        rw [if_pos trivial] at hstep
        obtain rfl := Option.some.inj hstep
        obtain ⟨call, hcalls, hphase⟩ := calls_ensured
          { s with loggedIn := true, lockHeld := false } id target retry
        refine .answers id rfl ⟨_, hcall, rfl⟩
          (lockHeld_ensured _ id target retry)
          (loggedIn_ensured _ id target retry) ?_
        intro other hother
        refine loggingIn_of_update hcalls ?_ hother
        intro state hstate
        obtain rfl := Option.some.inj hstate
        exact hphase
      · cases hstep
  case permit =>
    simp only [ClientRun.step] at hstep
    split at hstep
    next target hcall =>
      split at hstep
      · obtain rfl := Option.some.inj hstep
        refine .of_update rfl ?_ rfl (Or.inl rfl) (by simp)
        intro state hstate
        obtain rfl := Option.some.inj hstate
        rfl
      · cases hstep
    · cases hstep
  case answered =>
    simp only [ClientRun.step] at hstep
    split at hstep
    next target hcall =>
      split at hstep
      next hunauthorized =>
        obtain rfl := Option.some.inj hstep
        refine .of_update rfl ?_ rfl (Or.inr ⟨id, by rw [hunauthorized]⟩)
          (by simp)
        intro state hstate
        obtain rfl := Option.some.inj hstate
        rfl
      · obtain rfl := Option.some.inj hstep
        exact .of_finish rfl (by simp)
    · cases hstep
  case retryAnswered =>
    simp only [ClientRun.step] at hstep
    split at hstep
    · obtain rfl := Option.some.inj hstep
      exact .of_finish rfl (by simp)
    · cases hstep
  case cancel =>
    simp only [ClientRun.step] at hstep
    split at hstep
    next call hcall =>
      obtain rfl := Option.some.inj hstep
      refine .of_finish ?_ (by simp)
      by_contra hlock
      exact hcancel id rfl ⟨call, hcall, Bool.not_eq_false _ ▸ hlock⟩
    · cases hstep

end ClientRun

/-! ## At most one login -/

namespace SessionRun

/-- Before the first login has succeeded at most one request is under way;
after that the client stays logged in. -/
structure SessionInvariant (s : SessionRun) : Prop where
  lock : s.client.LockInvariant
  count : s.logins = s.session + if s.client.lockHeld then 1 else 0
  once : s.session = 0 ∨
    s.session = 1 ∧ s.client.lockHeld = false ∧ s.client.loggedIn = true

theorem SessionInvariant.oneLogin {s : SessionRun}
    (h : s.SessionInvariant) : s.OneLogin := by
  rw [OneLogin, h.count]
  rcases h.once with hsession | ⟨hsession, hfree, -⟩
  · rw [hsession]
    split
    · exact le_refl 1
    · exact Nat.zero_le 1
  · rw [hsession, hfree]
    exact le_refl 1

theorem SessionInvariant.initial (allowedMinions : List String)
    (permits : ℕ) :
    (SessionRun.initial allowedMinions permits).SessionInvariant where
  lock := by
    constructor
    · rintro id ⟨call, hcall, -⟩
      cases hcall
    · rintro id other ⟨call, hcall, -⟩
      cases hcall
  count := rfl
  once := Or.inl rfl

/-- One step of the client under the lock keeps the lock's invariant. -/
theorem lockInvariant_of_moves {client client' : ClientRun} {e : ClientEvent}
    (h : client.LockInvariant) (hmoves : client.LoginMoves e client') :
    client'.LockInvariant := by
  rcases hmoves with ⟨hlock, -, hcalls, -⟩ | ⟨id, -, hfree, -, hlock, hcalls⟩ |
    ⟨id, -, hlogging, -, -, hcalls⟩
  · constructor
    · intro other hother
      rw [hlock]
      exact h.held other (hcalls other hother)
    · intro other other' hother hother'
      exact h.unique other other' (hcalls other hother) (hcalls other' hother')
  · have hid : ∀ other, client'.LoggingIn other → other = id := by
      intro other hother
      rcases hcalls other hother with hold | heq
      · have hheld := h.held other hold
        rw [hfree] at hheld
        cases hheld
      · exact heq
    constructor
    · exact fun _ _ => hlock
    · intro other other' hother hother'
      rw [hid other hother, hid other' hother']
  · have hnone : ∀ other, ¬client'.LoggingIn other := by
      intro other hother
      obtain ⟨hold, hne⟩ := hcalls other hother
      exact hne (h.unique other id hold hlogging)
    constructor
    · exact fun other hother => absurd hother (hnone other)
    · exact fun other _ hother => absurd hother (hnone other)

theorem sessionAfter_of_other {s : SessionRun} {e : ClientEvent}
    (hother : ∀ id, e ≠ .loginAnswered id true) :
    s.sessionAfter e = s.session := by
  unfold sessionAfter
  split
  next id => exact absurd rfl (hother id)
  next => rfl

theorem SessionInvariant.step {s s' : SessionRun} {e : SessionEvent}
    (h : s.SessionInvariant) (he : s.InTime e)
    (hstep : s.step e = some s') : s'.SessionInvariant := by
  rcases e with _ | e
  · obtain rfl := Option.some.inj hstep
    exact ⟨h.lock, h.count, h.once⟩
  · rw [SessionRun.step, Option.ite_none_right_eq_some] at hstep
    obtain ⟨hmay, hstep⟩ := hstep
    obtain ⟨client, hclient, rfl⟩ := Option.map_eq_some_iff.mp hstep
    have hmoves : s.client.LoginMoves e client := by
      refine .of_step ?_ ?_ ?_ hclient
      · rintro loggedIn rfl
        cases hmay
      · rintro id rfl
        cases he
      · rintro id rfl ⟨call, hcall, hlock⟩
        exact absurd hlock (by rw [he call hcall]; exact Bool.false_ne_true)
    have hlockInvariant := lockInvariant_of_moves h.lock hmoves
    rcases hmoves with ⟨hlock, hflag, -, hother⟩ |
      ⟨id, rfl, hfree, hflag, hlock, -⟩ | ⟨id, rfl, hlogging, hlock, hflag, -⟩
    · refine ⟨hlockInvariant, ?_, ?_⟩
      · simp only [advance, hlock, Bool.and_not_self, Bool.false_eq_true,
          if_false, sessionAfter_of_other hother]
        exact h.count
      · simp only [advance, hlock, sessionAfter_of_other hother]
        rcases h.once with hsession | ⟨hsession, hfree, hin⟩
        · exact Or.inl hsession
        · rcases hflag with hsame | ⟨id, rfl⟩
          · exact Or.inr ⟨hsession, hfree, hsame.trans hin⟩
          -- A 401 to the first session is not in time any more.
          · have hsent : s.sentIn id = 0 := by
              simpa [mayHappen] using (Bool.and_eq_true_iff.mp hmay).2
            exact Or.inl (he.symm.trans hsent)
    · have hsession : s.session = 0 := by
        rcases h.once with hsession | ⟨-, -, hin⟩
        · exact hsession
        · rw [hflag] at hin
          cases hin
      refine ⟨hlockInvariant, ?_, Or.inl hsession⟩
      have hcount := h.count
      rw [hfree] at hcount
      simp [advance, hlock, hfree, hcount, sessionAfter]
    · have hheld := h.lock.held id hlogging
      have hsession : s.session = 0 := by
        rcases h.once with hsession | ⟨-, hfree, -⟩
        · exact hsession
        · rw [hfree] at hheld
          cases hheld
      refine ⟨hlockInvariant, ?_, Or.inr ⟨?_, hlock, hflag⟩⟩
      · have hcount := h.count
        rw [hheld] at hcount
        simp [advance, hlock, hcount, sessionAfter]
      · simp [advance, sessionAfter, hsession]

/-- While every 401 is handled before a login has succeeded, the calls send
one login request at most. -/
theorem one_login_of_inTime (allowedMinions : List String) (permits : ℕ)
    (trace : List SessionEvent)
    (htime : EveryStep step (initial allowedMinions permits) trace InTime) :
    EveryState step (initial allowedMinions permits) trace OneLogin := by
  intro past hpast s hs
  have hinvariant : s.SessionInvariant :=
    exec_invariant (SessionInvariant.initial allowedMinions permits)
      (fun _ _ _ h he hstep => h.step he hstep) (htime.of_prefix hpast) hs
  exact hinvariant.oneLogin

/-! ## An early answer, and a late one -/

/-- Two calls in progress on a session that expires. -/
def twoCalls : List SessionEvent :=
  [.call (.begin 0 "web"), .call (.begin 1 "web"), .call (.permit 0),
    .call (.permit 1), .expire]

/-- The second answer arrives while the first call logs in. -/
def earlyAnswer : List SessionEvent :=
  twoCalls ++ [.call (.answered 0 true), .call (.lock 0),
    .call (.answered 1 true), .call (.loginAnswered 0 true),
    .call (.lock 1), .call (.retryAnswered 0), .call (.retryAnswered 1)]

/-- A test of the condition for runs that cancel no call. -/
def testInTime (s : SessionRun) : SessionEvent → Bool
  | .call (.answered id true) => s.sentIn id = s.session
  | .call (.loginAnswered _ succeeded) => succeeded
  | .call (.cancel _) => false
  | _ => true

theorem inTime_of_test (s : SessionRun) (e : SessionEvent)
    (h : s.testInTime e = true) : s.InTime e := by
  unfold testInTime at h
  unfold InTime
  split at h
  · exact of_decide_eq_true h
  · exact h
  · cases h
  · trivial

theorem one_login_of_earlyAnswer :
    EveryStep step (initial ["web"] 10) earlyAnswer InTime ∧
      EveryState step (initial ["web"] 10) earlyAnswer OneLogin := by
  have htime : EveryStep step (initial ["web"] 10) earlyAnswer InTime :=
    everyStep_of_testSteps inTime_of_test (by decide +kernel)
  exact ⟨htime, one_login_of_inTime ["web"] 10 earlyAnswer htime⟩

/-- The second answer arrives after the first call has logged in. -/
def lateAnswer : List SessionEvent :=
  twoCalls ++ [.call (.answered 0 true), .call (.lock 0),
    .call (.loginAnswered 0 true), .call (.answered 1 true), .call (.lock 1)]

/-- One expiry leads to two login requests. -/
theorem late_answer_logs_in_again :
    ¬∀ (allowedMinions : List String) (permits : ℕ)
      (trace : List SessionEvent),
      EveryState step (initial allowedMinions permits) trace OneLogin := by
  intro hall
  have hlogins : (exec step (initial ["web"] 10) lateAnswer).map (·.logins) =
      some 2 := by
    decide +kernel
  obtain ⟨s, hs, htwo⟩ := Option.map_eq_some_iff.mp hlogins
  have hone := hall ["web"] 10 lateAnswer lateAnswer (List.prefix_refl _) s hs
  rw [OneLogin, htwo] at hone
  exact absurd hone (by decide)

end SessionRun

end UyuniAgent.Salt
