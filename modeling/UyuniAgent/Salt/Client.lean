import UyuniAgent.Resilience.Circuit
import UyuniAgent.Support.PyValue
import UyuniAgent.Support.Raising

/-!
# The Salt client

One call of `SaltAPIClient` from the response of the Salt API to the output of
`run_command`.  What the network does is an argument: the reply to each request
that a call may send, the state of the circuit, and whether the deadline of the
operation expires first.
-/

namespace UyuniAgent.Salt

open Raising Resilience

/-! ## Replies and exceptions -/

/-- What a request ends in: an `httpx.HTTPError`, or a response with the text
of the error that `raise_for_status` would raise.  A body that cannot be
decoded is absent. -/
inductive HttpReply
  | failed (error : String)
  | response (status : ℕ) (statusError : String) (body : Option String)
  deriving DecidableEq

inductive SaltException
  | httpError (text : String)
  | saltApiError (text : String)
  | dependencyUnavailable (dependency : String) (retryAfterSeconds : ℚ)
  | valueError (text : String)
  | timeoutError
  | recursionError
  deriving DecidableEq

/-- `str(exc)`. -/
def SaltException.text : SaltException → String
  | .httpError text => text
  | .saltApiError text => text
  | .dependencyUnavailable dependency retryAfterSeconds =>
      dependency ++ " circuit is open; retry after " ++
        Decimal.fixed 1 (max 0 retryAfterSeconds) ++ "s"
  | .valueError text => text
  | .timeoutError => ""
  | .recursionError => "maximum recursion depth exceeded"

/-- The exceptions that `_safe_call` turns into evidence. -/
def SaltException.expected : SaltException → Bool
  | .httpError _ => true
  | .saltApiError _ => true
  | .dependencyUnavailable _ _ => true
  | .valueError _ => true
  | .timeoutError => false
  | .recursionError => false

/-! ## `_call` -/

/-- The session before a call, and the replies to the requests it may send. -/
structure Exchange where
  started : Bool
  loggedIn : Bool
  login : HttpReply
  answer : HttpReply
  relogin : HttpReply
  retried : HttpReply
  deriving DecidableEq

/-- `await client.post(...)`. -/
def post : HttpReply → Except SaltException (ℕ × String × Option String)
  | .failed error => .error (.httpError error)
  | .response status statusError body => .ok (status, statusError, body)

/-- `raise_for_status`, and the body of a success. -/
def raiseForStatus :
    ℕ × String × Option String → Except SaltException (Option String)
  | (status, statusError, body) =>
      if 200 ≤ status ∧ status < 300 then .ok body
      else .error (.httpError statusError)

def ensureLogin (reply : HttpReply) : Except SaltException Unit := do
  let _ ← post reply >>= raiseForStatus
  return ()

/-- The body that `_call` decodes. -/
def Exchange.body (exchange : Exchange) :
    Except SaltException (Option String) := do
  if !exchange.started then
    throw (.saltApiError "Salt API client has not been started")
  if !exchange.loggedIn then
    ensureLogin exchange.login
  let (status, rest) ← post exchange.answer
  if status = 401 then
    ensureLogin exchange.relogin
    post exchange.retried >>= raiseForStatus
  else
    raiseForStatus (status, rest)

/-- `resp.json()`; every `ValueError` becomes a `SaltAPIError`. -/
def decode (py : Interpreter) : Option String → Except SaltException PyValue
  | none => .error (.saltApiError "Salt API returned invalid JSON")
  | some text =>
      match Json.loads py text with
      | .ok value => .ok value
      | .error .recursionError => .error .recursionError
      | .error _ => .error (.saltApiError "Salt API returned invalid JSON")

def extractMinionResult (py : Interpreter) (payload : PyValue)
    (minionId : String) : Except SaltException PyValue :=
  match payload with
  | .dict members =>
      match PyValue.get members "return" with
      | .list (.dict results :: _) =>
          match results.lookup minionId with
          | some result => .ok result
          | none =>
              .error (.saltApiError ("Salt API returned no data for minion " ++
                py.repr (.str minionId)))
      | .list (_ :: _) =>
          .error (.saltApiError "Salt API return data must be an object")
      | _ => .error (.saltApiError "Salt API response has no return data")
  | _ => .error (.saltApiError "Salt API response must be a JSON object")

def validateConfiguredMinion (py : Interpreter) (allowedMinions : List String)
    (minionId : String) : Except SaltException Unit :=
  if minionId ∈ allowedMinions then .ok ()
  else
    .error (.valueError ("minion " ++ py.repr (.str minionId) ++
      " is not configured for this agent"))

def call (py : Interpreter) (allowedMinions : List String) (minionId : String)
    (exchange : Exchange) : Except SaltException PyValue := do
  validateConfiguredMinion py allowedMinions minionId
  let body ← exchange.body
  let payload ← decode py body
  extractMinionResult py payload minionId

/-! ## `run_command` -/

/-- The circuit of the dependency `salt` when a call asks it. -/
structure Circuit where
  settings : BreakerSettings
  breaker : CircuitBreaker
  now : ℚ

def Circuit.acquired (circuit : Circuit) : CircuitSnapshot :=
  (circuit.breaker.acquire circuit.settings circuit.now).1

/-- One operation of the client.  Without a dependency manager there is neither
a circuit nor a deadline. -/
structure Operation where
  exchange : Exchange
  circuit : Option Circuit
  deadlineExpires : Bool

/-- `_call`, behind the circuit and under the deadline of
`DependencyManager.execute`. -/
def execute (py : Interpreter) (allowedMinions : List String)
    (minionId : String) (operation : Operation) :
    Except SaltException PyValue :=
  match operation.circuit with
  | none => call py allowedMinions minionId operation.exchange
  | some circuit =>
      if circuit.acquired.state = .opened then
        .error (.dependencyUnavailable "salt"
          circuit.acquired.retryAfterSeconds)
      else if operation.deadlineExpires then .error .timeoutError
      else call py allowedMinions minionId operation.exchange

/-- `_safe_call`. -/
def safeCall (py : Interpreter) (allowedMinions : List String)
    (minionId : String) (operation : Operation) :
    Except SaltException PyValue :=
  match execute py allowedMinions minionId operation with
  | .ok value => .ok value
  | .error e =>
      if e.expected then .ok (.str ("Salt API call failed: " ++ e.text))
      else .error e

def runCommand (py : Interpreter) (allowedMinions : List String)
    (minionId : String) (operation : Operation) :
    Except SaltException String := do
  match ← safeCall py allowedMinions minionId operation with
  | .bool false => return "Salt API call failed: minion returned no cmd.run result"
  | .none => return "Salt API call failed: minion returned no cmd.run result"
  | result => return result.toStr py

/-! ## What passes through `_safe_call` -/

/-- The response that the call decodes is nested too deep. -/
def Exchange.TooDeep (py : Interpreter) (exchange : Exchange) : Prop :=
  ∃ text, exchange.body = .ok (some text) ∧
    Json.loads py text = .error .recursionError

/-- The circuit admits the operation, and the operation runs out of time or
the response to it is nested too deep. -/
def Operation.Escapes (py : Interpreter) (allowedMinions : List String)
    (minionId : String) (operation : Operation) : Prop :=
  (∀ circuit, operation.circuit = some circuit →
      circuit.acquired.state ≠ .opened) ∧
    ((operation.circuit.isSome = true ∧ operation.deadlineExpires = true) ∨
      (minionId ∈ allowedMinions ∧ operation.exchange.TooDeep py))

/-- What a request raises is turned into evidence. -/
theorem post_expected (reply : HttpReply) :
    RaisesOnly (·.expected = true) (post reply) := by
  rcases reply with error | ⟨status, statusError, body⟩
  · exact RaisesOnly.error rfl
  · exact RaisesOnly.ok _

theorem raiseForStatus_expected (response : ℕ × String × Option String) :
    RaisesOnly (·.expected = true) (raiseForStatus response) := by
  simp only [raiseForStatus]
  split
  · exact RaisesOnly.ok _
  · exact RaisesOnly.error rfl

theorem ensureLogin_expected (reply : HttpReply) :
    RaisesOnly (·.expected = true) (ensureLogin reply) := by
  refine RaisesOnly.bind ?_ fun _ _ => RaisesOnly.ok _
  exact RaisesOnly.bind (post_expected reply) fun response _ =>
    raiseForStatus_expected response

/-- From the login on, every failure of the transport is expected. -/
theorem Exchange.body_expected (exchange : Exchange) :
    RaisesOnly (·.expected = true) exchange.body := by
  have hanswer : RaisesOnly (·.expected = true)
      (post exchange.answer >>= fun response =>
        if response.1 = 401 then do
          ensureLogin exchange.relogin
          post exchange.retried >>= raiseForStatus
        else raiseForStatus response) := by
    refine RaisesOnly.bind (post_expected exchange.answer) ?_
    intro response _
    split
    · refine RaisesOnly.bind (ensureLogin_expected exchange.relogin) ?_
      intro _ _
      exact RaisesOnly.bind (post_expected exchange.retried) fun retried _ =>
        raiseForStatus_expected retried
    · exact raiseForStatus_expected response
  rcases hstarted : exchange.started with _ | _
  · simp only [Exchange.body, hstarted]
    exact RaisesOnly.error rfl
  · rcases hlogged : exchange.loggedIn with _ | _
    · simp only [Exchange.body, hstarted, hlogged]
      exact RaisesOnly.bind (ensureLogin_expected exchange.login)
        fun _ _ => hanswer
    · simp only [Exchange.body, hstarted, hlogged]
      exact hanswer

theorem extractMinionResult_expected (py : Interpreter) (payload : PyValue)
    (minionId : String) :
    RaisesOnly (·.expected = true)
      (extractMinionResult py payload minionId) := by
  simp only [extractMinionResult]
  split
  · split
    · split
      · exact RaisesOnly.ok _
      · exact RaisesOnly.error rfl
    · exact RaisesOnly.error rfl
    · exact RaisesOnly.error rfl
  · exact RaisesOnly.error rfl

section RunCommand

variable {py : Interpreter} {allowedMinions : List String}
  {minionId : String}

/-- The one unexpected exception of a call is that of a response nested too
deep. -/
theorem call_raises (exchange : Exchange) :
    RaisesOnly (fun e => e.expected = true ∨
        (minionId ∈ allowedMinions ∧ exchange.TooDeep py))
      (call py allowedMinions minionId exchange) := by
  by_cases hallowed : minionId ∈ allowedMinions
  · have hvalid : validateConfiguredMinion py allowedMinions minionId =
        .ok () := if_pos hallowed
    refine RaisesOnly.bind (by rw [hvalid]; exact RaisesOnly.ok ()) ?_
    intro _ _
    refine RaisesOnly.bind ?_ ?_
    · intro e he
      exact Or.inl (exchange.body_expected e he)
    · intro body hbody
      refine RaisesOnly.bind ?_ ?_
      · intro e he
        rcases body with _ | text
        · obtain rfl := Except.error.inj he
          exact Or.inl rfl
        · simp only [decode] at he
          split at he
          · cases he
          next hdeep => exact Or.inr ⟨hallowed, text, hbody, hdeep⟩
          · obtain rfl := Except.error.inj he
            exact Or.inl rfl
      · intro payload _ e he
        exact Or.inl (extractMinionResult_expected py payload minionId e he)
  · have hinvalid : call py allowedMinions minionId exchange =
        .error (.valueError ("minion " ++ py.repr (.str minionId) ++
          " is not configured for this agent")) := by
      simp [call, validateConfiguredMinion, hallowed, bind, Except.bind]
    rw [hinvalid]
    exact RaisesOnly.error (Or.inl rfl)

theorem call_of_tooDeep {exchange : Exchange}
    (hallowed : minionId ∈ allowedMinions) (hdeep : exchange.TooDeep py) :
    call py allowedMinions minionId exchange = .error .recursionError := by
  obtain ⟨text, hbody, hloads⟩ := hdeep
  simp [call, validateConfiguredMinion, hallowed, hbody, decode, hloads, bind,
    Except.bind]

theorem safeCall_returns_iff {operation : Operation} :
    Returns (safeCall py allowedMinions minionId operation) ↔
      RaisesOnly (·.expected = true)
        (execute py allowedMinions minionId operation) := by
  rcases hexecute : execute py allowedMinions minionId operation with e | value
  · rcases hexpected : e.expected with _ | _
    · simp [safeCall, hexecute, hexpected, Returns, RaisesOnly]
    · simp [safeCall, hexecute, hexpected, Returns, RaisesOnly]
  · simp [safeCall, hexecute, Returns, RaisesOnly]

theorem runCommand_returns_iff_safeCall {operation : Operation} :
    Returns (runCommand py allowedMinions minionId operation) ↔
      Returns (safeCall py allowedMinions minionId operation) := by
  rw [runCommand, returns_bind_iff]
  constructor
  · rintro ⟨value, hvalue, -⟩
    exact ⟨value, hvalue⟩
  · rintro ⟨value, hvalue⟩
    refine ⟨value, hvalue, ?_⟩
    split
    · exact returns_ok _
    · exact returns_ok _
    · exact returns_ok _

/-- `run_command` returns, unless the exception of its operation escapes. -/
theorem runCommand_returns_iff {operation : Operation} :
    Returns (runCommand py allowedMinions minionId operation) ↔
      ¬operation.Escapes py allowedMinions minionId := by
  rw [runCommand_returns_iff_safeCall, safeCall_returns_iff]
  constructor
  · rintro hexpected ⟨hadmitted, ⟨hsome, hexpires⟩ | ⟨hallowed, hdeep⟩⟩
    · obtain ⟨circuit, hcircuit⟩ := Option.isSome_iff_exists.mp hsome
      have htimeout : execute py allowedMinions minionId operation =
          .error .timeoutError := by
        simp [execute, hcircuit, hadmitted circuit hcircuit, hexpires]
      exact absurd (hexpected _ htimeout) (by decide)
    · have hcall := call_of_tooDeep hallowed hdeep
      rcases hcircuit : operation.circuit with _ | circuit
      · have hraises : execute py allowedMinions minionId operation =
            .error .recursionError := by
          simp [execute, hcircuit, hcall]
        exact absurd (hexpected _ hraises) (by decide)
      · rcases hexpires : operation.deadlineExpires with _ | _
        · have hraises : execute py allowedMinions minionId operation =
              .error .recursionError := by
            simp [execute, hcircuit, hadmitted circuit hcircuit, hexpires,
              hcall]
          exact absurd (hexpected _ hraises) (by decide)
        · have hraises : execute py allowedMinions minionId operation =
              .error .timeoutError := by
            simp [execute, hcircuit, hadmitted circuit hcircuit, hexpires]
          exact absurd (hexpected _ hraises) (by decide)
  · intro hescapes e he
    have hcalled (hadmitted : ∀ circuit, operation.circuit = some circuit →
          circuit.acquired.state ≠ .opened)
        (hcall : call py allowedMinions minionId operation.exchange =
          .error e) : e.expected = true := by
      rcases call_raises operation.exchange e hcall with hexpected | hdeep
      · exact hexpected
      · exact absurd ⟨hadmitted, Or.inr hdeep⟩ hescapes
    rcases hcircuit : operation.circuit with _ | circuit
    · simp only [execute, hcircuit] at he
      apply hcalled _ he
      intro circuit hsome
      rw [hcircuit] at hsome
      cases hsome
    · simp only [execute, hcircuit] at he
      split at he
      · obtain rfl := Except.error.inj he
        rfl
      next hadmitted =>
        have hall : ∀ other, operation.circuit = some other →
            other.acquired.state ≠ .opened := by
          intro other hother
          obtain rfl := Option.some.inj (hcircuit.symm.trans hother)
          exact hadmitted
        split at he
        next hexpires =>
          exact absurd ⟨hall, Or.inl ⟨by rw [hcircuit]; rfl, hexpires⟩⟩ hescapes
        · exact hcalled hall he

end RunCommand

end UyuniAgent.Salt
