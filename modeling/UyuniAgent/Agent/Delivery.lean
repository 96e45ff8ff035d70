import UyuniAgent.Agent.Orphans
import UyuniAgent.Resilience.Recovery
import UyuniAgent.Support.PyText

/-!
# Deliveries

`send_alert_payload` posts an alert up to three times, behind the circuit of
Alertmanager and a deadline, while the steps of the agent take a delivery for
one POST that is accepted or not.  The two agree unless Alertmanager takes an
alert over and the client never learns of it.
-/

namespace UyuniAgent.Agent

open Resilience

/-! ## `send_alert_payload` -/

/-- What the client sees of one POST. -/
inductive PostReply
  | response (status : ℕ) (text : String)
  | httpError (text : String)
  /-- An exception that is no `httpx.HTTPError`. -/
  | raised (text : String)
  /-- The deadline of the delivery passes first. -/
  | expired
  deriving DecidableEq

/-- One POST: whether Alertmanager takes the alert over, and the reply. -/
structure Attempt where
  taken : Bool
  reply : PostReply
  deriving DecidableEq

/-- How the attempts of a delivery go, by their number, and whether the
deadline passes in the pause after an attempt. -/
structure AlertExchange where
  attempt : ℕ → Attempt
  pauseExpires : ℕ → Bool

inductive SendEnding
  | returned (result : String)
  | raised (text : String)
  | expired
  deriving DecidableEq

/-- How the POSTs of a delivery end, and how many there are. -/
structure Sending where
  ending : SendEnding
  posts : ℕ
  deriving DecidableEq

/-- `_MAX_RETRIES`. -/
def maxRetries : ℕ := 3

/-- `f"Error: {response.status_code} - {response.text}"`. -/
def errorResponse (status : ℕ) (text : String) : String :=
  "Error: " ++ toString status ++ " - " ++ text

/-- The ending that a reply causes at once; the others are retried. -/
def PostReply.ending : PostReply → Option SendEnding
  | .response status text =>
      if status = 200 then
        some (.returned "Success: alert routed through AlertManager.")
      else if 400 ≤ status ∧ status < 500 then
        some (.returned (errorResponse status text))
      else none
  | .httpError _ => none
  | .raised text => some (.raised text)
  | .expired => some .expired

/-- `last_error` after a reply that is retried. -/
def PostReply.lastError : PostReply → String
  | .response status text => errorResponse status text
  | .httpError text => "Connection failed: " ++ text
  | _ => ""

/-- The loop from an attempt on, with the number of attempts left. -/
def sendFrom (exchange : AlertExchange) (lastError : Option String)
    (number : ℕ) : ℕ → Sending
  | 0 => ⟨.returned (orText (lastError.getD "")
      "Error: failed to send alert after retries."), 0⟩
  | left + 1 =>
      match (exchange.attempt number).reply.ending with
      | some ending => ⟨ending, 1⟩
      | none =>
          if left ≠ 0 ∧ exchange.pauseExpires number then ⟨.expired, 1⟩
          else
            let rest := sendFrom exchange
              (some (exchange.attempt number).reply.lastError) (number + 1) left
            ⟨rest.ending, rest.posts + 1⟩

def sendAlertPayload (exchange : AlertExchange) : Sending :=
  sendFrom exchange none 1 maxRetries

def alertDeliverySucceeded (result : String) : Bool :=
  PyText.startsWith result "Success:"

/-! ### Where the loop ends -/

section Loop

variable {exchange : AlertExchange} {number left : ℕ}

/-- The loop goes on to the next attempt. -/
def AlertExchange.goesOn (exchange : AlertExchange) (k : ℕ) : Prop :=
  (exchange.attempt k).reply.ending = none ∧ exchange.pauseExpires k = false

/-- The loop from an attempt on comes to the attempt `k`. -/
structure AlertExchange.Reaches (exchange : AlertExchange)
    (number left k : ℕ) : Prop where
  from_le : number ≤ k
  lt : k < number + left
  before : ∀ j, number ≤ j → j < k → exchange.goesOn j

/-- The loop ends with the attempt `k`. -/
inductive AlertExchange.EndsAt (exchange : AlertExchange) (number left k : ℕ) :
    SendEnding → Prop
  | reply (ending : SendEnding) (hreaches : exchange.Reaches number left k)
      (hreply : (exchange.attempt k).reply.ending = some ending) :
      exchange.EndsAt number left k ending
  | pause (hreaches : exchange.Reaches number left k)
      (hreply : (exchange.attempt k).reply.ending = none)
      (hnotLast : k + 1 < number + left)
      (hpause : exchange.pauseExpires k = true) :
      exchange.EndsAt number left k .expired
  | last (hreaches : exchange.Reaches number left k)
      (hreply : (exchange.attempt k).reply.ending = none)
      (hlast : k + 1 = number + left) :
      exchange.EndsAt number left k
        (.returned (exchange.attempt k).reply.lastError)

theorem AlertExchange.EndsAt.reaches {k : ℕ} {ending : SendEnding}
    (h : exchange.EndsAt number left k ending) :
    exchange.Reaches number left k := by
  cases h with
  | reply _ hreaches _ => exact hreaches
  | pause hreaches _ _ _ => exact hreaches
  | last hreaches _ _ => exact hreaches

theorem AlertExchange.EndsAt.not_goesOn {k : ℕ} {ending : SendEnding}
    (h : exchange.EndsAt number left k ending)
    (hnotLast : k + 1 < number + left) : ¬exchange.goesOn k := by
  rintro ⟨hnone, hpause⟩
  cases h with
  | reply _ _ hreply => simp [hnone] at hreply
  | pause _ _ _ hexpires => simp [hpause] at hexpires
  | last _ _ hlast => omega

/-- Nothing after the end of the loop is reached. -/
theorem AlertExchange.EndsAt.reaches_iff {k : ℕ} {ending : SendEnding}
    (h : exchange.EndsAt number left k ending) (j : ℕ) :
    exchange.Reaches number left j ↔ number ≤ j ∧ j ≤ k := by
  constructor
  · intro hj
    refine ⟨hj.from_le, Nat.le_of_not_lt fun hlt => ?_⟩
    exact h.not_goesOn (lt_of_le_of_lt hlt hj.lt)
      (hj.before k h.reaches.from_le hlt)
  · rintro ⟨hfrom, hle⟩
    exact ⟨hfrom, lt_of_le_of_lt hle h.reaches.lt,
      fun i hi hlt => h.reaches.before i hi (lt_of_lt_of_le hlt hle)⟩

theorem AlertExchange.Reaches.succ {k : ℕ} (hgoes : exchange.goesOn number)
    (h : exchange.Reaches (number + 1) left k) :
    exchange.Reaches number (left + 1) k where
  from_le := by have := h.from_le; omega
  lt := by have := h.lt; omega
  before := by
    intro j hj hlt
    rcases Nat.eq_or_lt_of_le hj with rfl | hnext
    · exact hgoes
    · exact h.before j hnext hlt

theorem AlertExchange.EndsAt.succ {k : ℕ} {ending : SendEnding}
    (hgoes : exchange.goesOn number)
    (h : exchange.EndsAt (number + 1) left k ending) :
    exchange.EndsAt number (left + 1) k ending := by
  cases h with
  | reply _ hreaches hreply => exact .reply _ (hreaches.succ hgoes) hreply
  | pause hreaches hreply hnotLast hpause =>
      exact .pause (hreaches.succ hgoes) hreply (by omega) hpause
  | last hreaches hreply hlast =>
      exact .last (hreaches.succ hgoes) hreply (by omega)

theorem errorResponse_startsWith (status : ℕ) (text : String) :
    PyText.startsWith (errorResponse status text) "Error: " = true := by
  rw [errorResponse, String.append_assoc, String.append_assoc]
  exact PyText.startsWith_append _ _

theorem PostReply.lastError_ne_empty {reply : PostReply}
    (h : reply.ending = none) : reply.lastError ≠ "" := by
  have hne : ∀ {text head : String}, PyText.startsWith text head = true →
      PyText.startsWith "" head = false → text ≠ "" := by
    rintro text head hstarts hempty rfl
    rw [hstarts] at hempty
    cases hempty
  cases reply with
  | response status text =>
      exact hne (errorResponse_startsWith status text) (by decide)
  | httpError text =>
      exact hne (PyText.startsWith_append "Connection failed: " text)
        (by decide)
  | raised text => cases h
  | expired => cases h

/-- The loop ends with the last of its POSTs. -/
theorem sendFrom_endsAt (exchange : AlertExchange) (lastError : Option String)
    (number left : ℕ) :
    ∃ k, exchange.EndsAt number (left + 1) k
        (sendFrom exchange lastError number (left + 1)).ending ∧
      (sendFrom exchange lastError number (left + 1)).posts + number =
        k + 1 := by
  have hself : exchange.Reaches number (left + 1) number :=
    ⟨le_rfl, by omega, fun j hj hlt => absurd hj (Nat.not_le_of_lt hlt)⟩
  induction left generalizing number lastError with
  | zero =>
      rw [sendFrom]
      split
      next ending hending =>
        exact ⟨number, .reply ending hself hending, Nat.add_comm 1 number⟩
      next hnone =>
        refine ⟨number, ?_, Nat.add_comm 1 number⟩
        have hlast := AlertExchange.EndsAt.last hself hnone rfl
        simpa [sendFrom, orText, PostReply.lastError_ne_empty hnone] using hlast
  | succ left ih =>
      rw [sendFrom]
      split
      next ending hending =>
        exact ⟨number, .reply ending hself hending, Nat.add_comm 1 number⟩
      next hnone =>
        split
        next hexpires =>
          exact ⟨number, .pause hself hnone (by omega) hexpires.2,
            Nat.add_comm 1 number⟩
        next hstays =>
          have hgoes : exchange.goesOn number := by
            refine ⟨hnone, ?_⟩
            simpa using hstays
          obtain ⟨k, hends, hposts⟩ := ih
            (some (exchange.attempt number).reply.lastError) (number + 1)
            ⟨le_rfl, by omega, fun j hj hlt => absurd hj (Nat.not_le_of_lt hlt)⟩
          exact ⟨k, hends.succ hgoes, by dsimp only; omega⟩

end Loop

/-! ## `_send_observed_alert` -/

/-- What `_send_observed_alert` makes of the ending. -/
def SendEnding.result : SendEnding → String
  | .returned result => result
  | .raised text => "Error: Alertmanager delivery failed: " ++ text
  | .expired => "Error: Alertmanager delivery failed: "

/-- What the circuit is told, with `alert_delivery_succeeded` as the
predicate of success. -/
def SendEnding.callEnding : SendEnding → CallEnding
  | .returned result =>
      if alertDeliverySucceeded result then .success else .refused
  | .raised _ => .error
  | .expired => .timeout

/-- The label `outcome` of the deliveries. -/
inductive DeliveryOutcome
  | success
  | rejected
  | serverError
  | networkError
  | error
  deriving DecidableEq

def recordAlertDelivery (result : String) : DeliveryOutcome :=
  if PyText.startsWith result "Success:" then .success
  else if PyText.startsWith result "Error: 4" then .rejected
  else if PyText.startsWith result "Error: 5" then .serverError
  else if PyText.contains result "Connection failed:" then .networkError
  else .error

/-- `f"Error: {exc}"` for the exception of an open circuit. -/
def unavailableResult (retryAfterSeconds : ℚ) : String :=
  "Error: alertmanager circuit is open; retry after " ++
    Decimal.fixed 1 (max 0 retryAfterSeconds) ++ "s"

/-- A delivery: its result and the label it is counted under, the POSTs it
made, and the circuit with what it was told. -/
structure ObservedDelivery where
  result : String
  outcome : DeliveryOutcome
  posts : ℕ
  told : Option CallEnding
  breaker : CircuitBreaker

/-- The delivery as one operation of the dependency `alertmanager`. -/
def sendObservedAlert (cfg : BreakerSettings) (breaker : CircuitBreaker)
    (acquiredAt recordedAt observedAt : ℚ) (exchange : AlertExchange) :
    ObservedDelivery :=
  let acquired := breaker.acquire cfg acquiredAt
  if acquired.1.state = .opened then
    let result := unavailableResult acquired.1.retryAfterSeconds
    ⟨result, recordAlertDelivery result, 0, none, acquired.2⟩
  else
    let sending := sendAlertPayload exchange
    ⟨sending.ending.result, recordAlertDelivery sending.ending.result,
      sending.posts, some sending.ending.callEnding,
      sending.ending.callEnding.settle cfg acquired.2 recordedAt observedAt⟩

/-! ### Texts of results -/

section Texts

theorem not_startsWith_success {result head : String}
    (hresult : PyText.startsWith result head = true) (hne : head ≠ "")
    (hother : head.toList.head? ≠ some 'S') :
    alertDeliverySucceeded result = false :=
  PyText.startsWith_of_head_ne hresult hne (by decide)
    (by simpa using hother)

theorem errorResponse_not_succeeded (status : ℕ) (text : String) :
    alertDeliverySucceeded (errorResponse status text) = false :=
  not_startsWith_success (errorResponse_startsWith status text) (by decide)
    (by decide)

theorem raisedResult_not_succeeded (text : String) :
    alertDeliverySucceeded ("Error: Alertmanager delivery failed: " ++ text) =
      false :=
  not_startsWith_success (PyText.startsWith_append _ text)
    (by decide +kernel) (by decide +kernel)

theorem PostReply.lastError_not_succeeded {reply : PostReply}
    (h : reply.ending = none) :
    alertDeliverySucceeded reply.lastError = false := by
  cases reply with
  | response status text => exact errorResponse_not_succeeded status text
  | httpError text =>
      exact not_startsWith_success
        (PyText.startsWith_append "Connection failed: " text) (by decide)
        (by decide)
  | raised text => cases h
  | expired => cases h

/-- The reply tells that the alert was accepted. -/
def PostReply.accepts (reply : PostReply) : Prop :=
  ∃ text, reply = .response 200 text

theorem PostReply.succeeded_iff {reply : PostReply} {ending : SendEnding}
    (h : reply.ending = some ending) :
    alertDeliverySucceeded ending.result = true ↔ reply.accepts := by
  cases reply with
  | response status text =>
      rw [PostReply.ending] at h
      split at h
      next hok =>
        obtain rfl := Option.some.inj h
        exact iff_of_true (by decide) ⟨text, by rw [hok]⟩
      next hother =>
        split at h
        · obtain rfl := Option.some.inj h
          refine iff_of_false
            (ne_true_of_eq_false (errorResponse_not_succeeded status text)) ?_
          rintro ⟨_, heq⟩
          exact hother (PostReply.response.inj heq).1
        · cases h
  | httpError text => cases h
  | raised text =>
      obtain rfl := Option.some.inj h
      exact iff_of_false (ne_true_of_eq_false (raisedResult_not_succeeded text))
        (by rintro ⟨_, heq⟩; cases heq)
  | expired =>
      obtain rfl := Option.some.inj h
      exact iff_of_false (by decide) (by rintro ⟨_, heq⟩; cases heq)

theorem PostReply.accepts.ending {reply : PostReply} (h : reply.accepts) :
    reply.ending ≠ none := by
  obtain ⟨text, rfl⟩ := h
  simp [PostReply.ending]

theorem AlertExchange.EndsAt.succeeded_iff {exchange : AlertExchange}
    {number left k : ℕ} {ending : SendEnding}
    (h : exchange.EndsAt number left k ending) :
    alertDeliverySucceeded ending.result = true ↔
      (exchange.attempt k).reply.accepts := by
  cases h with
  | reply _ _ hreply => exact PostReply.succeeded_iff hreply
  | pause _ hreply _ _ =>
      exact iff_of_false (by decide) fun haccepts => haccepts.ending hreply
  | last _ hreply _ =>
      exact iff_of_false
        (ne_true_of_eq_false (PostReply.lastError_not_succeeded hreply))
        fun haccepts => haccepts.ending hreply

end Texts

/-! ## Alertmanager -/

section Alerts

variable {F : Type} [DecidableEq F]

/-- The accepted POSTs after the first ones of a delivery. -/
def alertsAfter (exchange : AlertExchange) (payload : AlertPayload F)
    (takenAt : ℕ → ℚ) (count : ℕ) (posts : List (AcceptedPost F)) :
    List (AcceptedPost F) :=
  (List.range count).foldl (fun posts k =>
    post (exchange.attempt (k + 1)).taken payload (takenAt (k + 1)) posts) posts

/-- Alertmanager took the alert over with one of the first POSTs. -/
def AlertExchange.takenIn (exchange : AlertExchange) (count : ℕ) : Bool :=
  (List.range count).any fun k => (exchange.attempt (k + 1)).taken

theorem isFiring_post_congr {payload : AlertPayload F} {now : ℚ}
    {taken : Bool} {posts posts' : List (AcceptedPost F)} {labels : Labels F}
    (hposts : isFiring posts labels = isFiring posts' labels) :
    isFiring (post taken payload now posts) labels =
      isFiring (post taken payload now posts') labels := by
  by_cases hlabels : payload.labels = labels
  · subst hlabels
    cases taken with
    | false => exact hposts
    | true => rw [isFiring_post_self, isFiring_post_self]
  · rw [isFiring_post_of_ne hlabels, isFiring_post_of_ne hlabels, hposts]

theorem isFiring_post_post (taken taken' : Bool) (payload : AlertPayload F)
    (now now' : ℚ) (posts : List (AcceptedPost F)) (labels : Labels F) :
    isFiring (post taken' payload now' (post taken payload now posts)) labels =
      isFiring (post (taken || taken') payload now posts) labels := by
  by_cases hlabels : payload.labels = labels
  · subst hlabels
    cases taken' with
    | false => rw [Bool.or_false]; rfl
    | true => rw [Bool.or_true, isFiring_post_self, isFiring_post_self]
  · rw [isFiring_post_of_ne hlabels, isFiring_post_of_ne hlabels,
      isFiring_post_of_ne hlabels]

/-- Repeated POSTs of one alert act like a single one. -/
theorem isFiring_alertsAfter (exchange : AlertExchange)
    (payload : AlertPayload F) (takenAt : ℕ → ℚ) (now : ℚ) (count : ℕ)
    (posts : List (AcceptedPost F)) (labels : Labels F) :
    isFiring (alertsAfter exchange payload takenAt count posts) labels =
      isFiring (post (exchange.takenIn count) payload now posts) labels := by
  induction count with
  | zero => rfl
  | succ count ih =>
      have hlast : alertsAfter exchange payload takenAt (count + 1) posts =
          post (exchange.attempt (count + 1)).taken payload
            (takenAt (count + 1))
            (alertsAfter exchange payload takenAt count posts) := by
        rw [alertsAfter, List.range_succ, List.foldl_append]
        rfl
      have htaken : exchange.takenIn (count + 1) =
          (exchange.takenIn count || (exchange.attempt (count + 1)).taken) := by
        simp [AlertExchange.takenIn, List.range_succ, List.any_append]
      rw [hlast, htaken, isFiring_post_congr ih, isFiring_post_post]

/-- The alerts and the result of a delivery are those of one POST that is
accepted and reported, or neither. -/
def ObservedDelivery.Atomic (delivery : ObservedDelivery)
    (exchange : AlertExchange) (payload : AlertPayload F) (takenAt : ℕ → ℚ)
    (now : ℚ) : Prop :=
  ∀ (posts : List (AcceptedPost F)) (labels : Labels F),
    isFiring (alertsAfter exchange payload takenAt delivery.posts posts)
        labels =
      isFiring (post (alertDeliverySucceeded delivery.result) payload now
        posts) labels

theorem ObservedDelivery.atomic_iff {delivery : ObservedDelivery}
    {exchange : AlertExchange} {payload : AlertPayload F} {takenAt : ℕ → ℚ}
    {now : ℚ} :
    delivery.Atomic exchange payload takenAt now ↔
      exchange.takenIn delivery.posts =
        alertDeliverySucceeded delivery.result := by
  constructor
  · intro hatomic
    by_contra hdiffer
    -- before the delivery, its label set is in the other state
    have hdecides : ∀ posts : List (AcceptedPost F),
        isFiring posts payload.labels = !payload.endsAt.isNone → False := by
      intro posts hother
      have hsame := hatomic posts payload.labels
      rw [isFiring_alertsAfter exchange payload takenAt now] at hsame
      have hpost : ∀ taken, isFiring (post taken payload now posts)
          payload.labels = (taken == payload.endsAt.isNone) := by
        intro taken
        cases taken with
        | true => rw [isFiring_post_self, Bool.true_beq]
        | false => exact hother.trans (Bool.false_beq _).symm
      rw [hpost, hpost] at hsame
      revert hsame hdiffer
      cases exchange.takenIn delivery.posts <;>
        cases alertDeliverySucceeded delivery.result <;>
        cases payload.endsAt.isNone <;> simp
    cases hends : payload.endsAt with
    | none => exact hdecides [] (by rw [hends]; rfl)
    | some endsAt =>
        refine hdecides [⟨{ payload with endsAt := none }, 0, none⟩] ?_
        rw [hends]
        simp [isFiring]
  · intro hsame posts labels
    rw [isFiring_alertsAfter exchange payload takenAt now, hsame]

end Alerts

/-! ## Truthful deliveries -/

section Truthful

variable {cfg : BreakerSettings} {breaker : CircuitBreaker}
  {acquiredAt recordedAt observedAt : ℚ} {exchange : AlertExchange}

/-- The circuit lets the delivery through. -/
def admitsDelivery (cfg : BreakerSettings) (breaker : CircuitBreaker)
    (now : ℚ) : Prop :=
  (breaker.acquire cfg now).1.state ≠ .opened

/-- Some POST is answered with 200, and all before it can be retried in
time. -/
def AlertExchange.Accepted (exchange : AlertExchange) : Prop :=
  ∃ k, exchange.Reaches 1 maxRetries k ∧ (exchange.attempt k).reply.accepts

/-- A reply is lost: the alert was taken over, and none is answered with
200. -/
def AlertExchange.LosesReply (exchange : AlertExchange) : Prop :=
  ¬exchange.Accepted ∧
    ∃ k, exchange.Reaches 1 maxRetries k ∧ (exchange.attempt k).taken = true

theorem AlertExchange.EndsAt.accepted_iff {k : ℕ} {ending : SendEnding}
    (h : exchange.EndsAt 1 maxRetries k ending) :
    exchange.Accepted ↔ (exchange.attempt k).reply.accepts := by
  constructor
  · rintro ⟨j, hreaches, haccepts⟩
    obtain ⟨hfrom, hle⟩ := (h.reaches_iff j).mp hreaches
    rcases Nat.eq_or_lt_of_le hle with rfl | hlt
    · exact haccepts
    · exact absurd (h.reaches.before j hfrom hlt).1 haccepts.ending
  · exact fun haccepts => ⟨k, h.reaches, haccepts⟩

theorem takenIn_iff {count : ℕ} :
    exchange.takenIn count = true ↔
      ∃ k, 1 ≤ k ∧ k ≤ count ∧ (exchange.attempt k).taken = true := by
  rw [AlertExchange.takenIn, List.any_eq_true]
  constructor
  · rintro ⟨k, hk, htaken⟩
    exact ⟨k + 1, by omega, List.mem_range.mp hk, htaken⟩
  · rintro ⟨k, hfrom, hle, htaken⟩
    refine ⟨k - 1, List.mem_range.mpr (by omega), ?_⟩
    rwa [Nat.sub_add_cancel hfrom]

theorem callEnding_eq_success_iff {ending : SendEnding} :
    ending.callEnding = .success ↔
      alertDeliverySucceeded ending.result = true := by
  have hfailed : ∀ text, alertDeliverySucceeded
      ("Error: Alertmanager delivery failed: " ++ text) ≠ true :=
    fun text => ne_true_of_eq_false (raisedResult_not_succeeded text)
  cases ending with
  | returned result =>
      by_cases h : alertDeliverySucceeded result = true
      · exact iff_of_true (if_pos h) h
      · refine iff_of_false (fun hsuccess => ?_) h
        rw [SendEnding.callEnding, if_neg h] at hsuccess
        cases hsuccess
  | raised text => exact iff_of_false CallEnding.noConfusion (hfailed text)
  | expired => exact iff_of_false CallEnding.noConfusion (hfailed "")

theorem recordAlertDelivery_eq_success_iff {result : String} :
    recordAlertDelivery result = .success ↔
      alertDeliverySucceeded result = true := by
  rw [recordAlertDelivery, alertDeliverySucceeded]
  split
  next h => simp [h]
  next h =>
    refine iff_of_false ?_ h
    split
    · simp
    · split
      · simp
      · split <;> simp

theorem unavailableResult_not_succeeded (retryAfterSeconds : ℚ) :
    alertDeliverySucceeded (unavailableResult retryAfterSeconds) = false := by
  unfold unavailableResult
  generalize Decimal.fixed 1 (max 0 retryAfterSeconds) = seconds
  rw [String.append_assoc]
  exact not_startsWith_success (PyText.startsWith_append _ _)
    (by decide +kernel) (by decide +kernel)

/-- What becomes of a delivery.  At most three POSTs are made, and none while
the circuit is open; the result, the label and what the circuit is told agree
that it succeeded exactly when a POST was answered with 200; and it acts like
one POST that is accepted and reported, or neither, unless a reply was lost. -/
theorem delivery_truthful {F : Type} [DecidableEq F]
    (cfg : BreakerSettings) (breaker : CircuitBreaker)
    (acquiredAt recordedAt observedAt now : ℚ) (takenAt : ℕ → ℚ)
    (exchange : AlertExchange) (payload : AlertPayload F)
    (htakes : ∀ k, (exchange.attempt k).reply.accepts →
      (exchange.attempt k).taken = true) :
    let delivery := sendObservedAlert cfg breaker acquiredAt recordedAt
      observedAt exchange
    delivery.posts ≤ 3 ∧
      (delivery.posts = 0 ↔ ¬admitsDelivery cfg breaker acquiredAt) ∧
      (alertDeliverySucceeded delivery.result = true ↔
        admitsDelivery cfg breaker acquiredAt ∧ exchange.Accepted) ∧
      (delivery.told = some .success ↔
        alertDeliverySucceeded delivery.result = true) ∧
      (delivery.outcome = .success ↔
        alertDeliverySucceeded delivery.result = true) ∧
      (delivery.Atomic exchange payload takenAt now ↔
        ¬(admitsDelivery cfg breaker acquiredAt ∧ exchange.LosesReply)) := by
  intro delivery
  by_cases hopened : (breaker.acquire cfg acquiredAt).1.state = .opened
  · have hrefused : ¬admitsDelivery cfg breaker acquiredAt :=
      not_not_intro hopened
    have hdelivery : delivery = ⟨_, _, 0, none, _⟩ := if_pos hopened
    have hfailed : alertDeliverySucceeded delivery.result = false := by
      rw [hdelivery]
      exact unavailableResult_not_succeeded _
    refine ⟨by rw [hdelivery]; exact Nat.zero_le 3, ?_, ?_, ?_, ?_, ?_⟩
    · exact iff_of_true (by rw [hdelivery]) hrefused
    · exact iff_of_false (ne_true_of_eq_false hfailed) fun h => hrefused h.1
    · refine iff_of_false ?_ (ne_true_of_eq_false hfailed)
      rw [hdelivery]
      exact Option.some_ne_none _ ∘ Eq.symm
    · rw [hdelivery]
      exact recordAlertDelivery_eq_success_iff
    · rw [ObservedDelivery.atomic_iff, hfailed, hdelivery]
      exact iff_of_true rfl fun h => hrefused h.1
  · have hadmits : admitsDelivery cfg breaker acquiredAt := hopened
    have hdelivery : delivery = ⟨_, _, _, _, _⟩ := if_neg hopened
    obtain ⟨k, hends, hposts⟩ := sendFrom_endsAt exchange none 1 2
    have hcount : delivery.posts = k := by
      rw [hdelivery]
      exact Nat.succ.inj hposts
    have hresult : delivery.result =
        (sendAlertPayload exchange).ending.result := by
      rw [hdelivery]
    have hsucceeded : alertDeliverySucceeded delivery.result = true ↔
        exchange.Accepted := by
      rw [hresult]
      exact hends.succeeded_iff.trans hends.accepted_iff.symm
    have hbounds := hends.reaches
    refine ⟨?_, ?_, ?_, ?_, ?_, ?_⟩
    · have hlt := hbounds.lt
      omega
    · have hfrom := hbounds.from_le
      exact iff_of_false (by omega) (not_not_intro hadmits)
    · rw [hsucceeded, and_iff_right hadmits]
    · rw [hresult, ← callEnding_eq_success_iff, hdelivery]
      exact Option.some_inj
    · rw [hdelivery]
      exact recordAlertDelivery_eq_success_iff
    · have htaken : exchange.takenIn delivery.posts = true ↔
          ∃ j, exchange.Reaches 1 maxRetries j ∧
            (exchange.attempt j).taken = true := by
        rw [takenIn_iff, hcount]
        refine exists_congr fun j => ?_
        rw [← and_assoc, ← hends.reaches_iff j]
        rfl
      rw [ObservedDelivery.atomic_iff, Bool.eq_iff_iff, htaken, hsucceeded,
        and_iff_right hadmits, AlertExchange.LosesReply, not_and', not_not]
      refine ⟨Iff.mp, fun h => ⟨h, ?_⟩⟩
      rintro ⟨j, hreaches, haccepts⟩
      exact ⟨j, hreaches, htakes j haccepts⟩

/-- Alertmanager restarts, takes the alert over with a reply that is lost, and
takes it over again. -/
def retriedExchange : AlertExchange where
  attempt
    | 1 => ⟨false, .response 503 "restarting"⟩
    | 2 => ⟨true, .httpError "timed out"⟩
    | _ => ⟨true, .response 200 ""⟩
  pauseExpires _ := false

theorem retriedExchange_takes (k : ℕ)
    (h : (retriedExchange.attempt k).reply.accepts) :
    (retriedExchange.attempt k).taken = true := by
  match k with
  | 1 =>
      obtain ⟨text, heq⟩ := h
      exact absurd (PostReply.response.inj heq).1 (by decide)
  | 0 | 2 | _ + 3 => rfl

theorem retriedExchange_accepted : retriedExchange.Accepted := by
  refine ⟨3, ⟨by decide, by decide, fun j hfrom hlt => ?_⟩, "", rfl⟩
  obtain rfl | rfl : j = 1 ∨ j = 2 := by omega
  · exact ⟨by decide, rfl⟩
  · exact ⟨by decide, rfl⟩

/-- The third POST of the alert changes nothing more. -/
theorem delivery_truthful_retried :
    (sendObservedAlert Resilience.testSettings .initial 0 2 2
        retriedExchange).Atomic retriedExchange
      (buildAlertPayload Incident.openQuestion (Incident.busyCpu .warning)
        (Incident.busyCpu .warning).identityKey (rfc3339 0)) (fun _ => 1) 2 :=
  (delivery_truthful Resilience.testSettings .initial 0 2 2 2 (fun _ => 1)
    retriedExchange _ retriedExchange_takes).2.2.2.2.2.mpr
    fun hloses => hloses.2.1 retriedExchange_accepted

end Truthful

end UyuniAgent.Agent
