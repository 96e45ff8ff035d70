import UyuniAgent.Detector.Anomaly
import UyuniAgent.Support.PyValue

/-!
# The PostgreSQL lock inspection

`parse_postgres_lock_pairs`: what the detector reads from the output of the
blocking-activity query.  Text that is no array, and elements that are no lock
pair, are skipped.  Two exceptions pass through: the one of a number that is
infinite and the one of an array that is nested too deep.
-/

namespace UyuniAgent

open PyValue (get item toInt toStr)
open Raising

/-- `str(raw.get(key) or default)[:limit]`. -/
def lockText (py : Interpreter) (raw : List (String × PyValue))
    (key fallback : String) (limit : ℕ) : String :=
  let value := get raw key
  PyText.take limit
    (toStr py (if value.truthy then value else .str fallback))

/-- The numbers of a pair, in the order in which they are read. -/
structure LockNumbers where
  blockedPid : ℤ
  blockerPid : ℤ
  blockedSeconds : ℤ
  blockerSeconds : ℤ

def lockNumbers (raw : List (String × PyValue)) :
    Except PyException LockNumbers := do
  let blockedPid ← item raw "blocked_pid" >>= toInt
  let blockerPid ← item raw "blocker_pid" >>= toInt
  let blockedSeconds ← item raw "blocked_seconds" >>= toInt
  let blockerSeconds ←
    ((raw.lookup "blocker_transaction_seconds").getD (.int 0)).toInt
  return ⟨blockedPid, blockerPid, max 0 blockedSeconds, max 0 blockerSeconds⟩

def isLockWait : PyValue → Bool
  | .str text => text = "Lock"
  | _ => false

def lockPairOf (py : Interpreter) (raw : List (String × PyValue))
    (numbers : LockNumbers) : LockPair where
  blockedPid := numbers.blockedPid
  database := lockText py raw "database" "unknown" 128
  blockedUser := lockText py raw "blocked_user" "unknown" 128
  blockedApplication := lockText py raw "blocked_application" "" 256
  blockedClient := lockText py raw "blocked_client" "local" 128
  blockedState := lockText py raw "blocked_state" "unknown" 64
  waitEvent := lockText py raw "wait_event" "unknown" 128
  blockedSeconds := numbers.blockedSeconds
  blockedQueryId := lockText py raw "blocked_query_id" "unavailable" 64
  blockedCommand := lockText py raw "blocked_command" "UNKNOWN" 32
  blockerPid := numbers.blockerPid
  blockerUser := lockText py raw "blocker_user" "unknown" 128
  blockerApplication := lockText py raw "blocker_application" "" 256
  blockerClient := lockText py raw "blocker_client" "local" 128
  blockerState := lockText py raw "blocker_state" "unknown" 64
  blockerWaitEventType :=
    match get raw "blocker_wait_event_type" with
    | .none => none
    | value => some (PyText.take 128 (toStr py value))
  blockerTransactionSeconds := numbers.blockerSeconds
  blockerQueryId := lockText py raw "blocker_query_id" "unavailable" 64
  blockerCommand := lockText py raw "blocker_command" "UNKNOWN" 32

/-- One round of the loop: the pair it appends, if any. -/
def lockPair? (py : Interpreter) : PyValue → Except PyException (Option LockPair)
  | .dict raw =>
      match lockNumbers raw with
      | .ok numbers =>
          if isLockWait (get raw "wait_event_type") ∧ 0 < numbers.blockedPid ∧
              0 < numbers.blockerPid then
            .ok (some (lockPairOf py raw numbers))
          else .ok none
      | .error .keyError => .ok none
      | .error .typeError => .ok none
      | .error .valueError => .ok none
      | .error e => .error e
  | _ => .ok none

/-- The array inside the output of the query. -/
def lockPairText? (output : PyValue) : Option String :=
  match output with
  | .str output =>
      let stripped := PyText.strip output
      if stripped = "" ∨ PyText.startsWith stripped "Salt API call failed:" then
        none
      else PyText.between '[' ']' stripped
  | _ => none

def parsePostgresLockPairs (py : Interpreter) (output : PyValue) :
    Except PyException (List LockPair) :=
  match lockPairText? output with
  | none => .ok []
  | some text =>
      match Json.loads py text with
      | .ok (.list rawPairs) => do
          let pairs ← (rawPairs.take 100).mapM (lockPair? py)
          return pairs.reduceOption
      | .ok _ => .ok []
      | .error .typeError => .ok []
      | .error .valueError => .ok []
      | .error e => .error e

/-! ## When the parser returns -/

theorem lockNumbers_raises (raw : List (String × PyValue)) :
    RaisesOnly (fun e => e = .keyError ∨ PyValue.IsConversionError e)
      (lockNumbers raw) := by
  have hint (value : PyValue) :
      RaisesOnly (fun e => e = .keyError ∨ PyValue.IsConversionError e)
        value.toInt :=
    fun e he => Or.inr (PyValue.toInt_raises value e he)
  have hread (key : String) :
      RaisesOnly (fun e => e = .keyError ∨ PyValue.IsConversionError e)
        (item raw key >>= toInt) := by
    refine RaisesOnly.bind ?_ fun value _ => hint value
    intro e he
    exact Or.inl (PyValue.item_raises raw key e he)
  refine RaisesOnly.bind (hread "blocked_pid") fun _ _ => ?_
  refine RaisesOnly.bind (hread "blocker_pid") fun _ _ => ?_
  refine RaisesOnly.bind (hread "blocked_seconds") fun _ _ => ?_
  exact RaisesOnly.bind (hint _) fun _ _ => RaisesOnly.ok _

/-- A round of the loop returns, unless a number of the element is
infinite. -/
theorem lockPair?_returns_iff {py : Interpreter} {value : PyValue} :
    Returns (lockPair? py value) ↔
      ∀ raw, value = .dict raw → lockNumbers raw ≠ .error .overflowError := by
  rcases value with _ | b | n | f | t | items | raw
  case dict =>
    rcases hnumbers : lockNumbers raw with e | numbers
    · rcases lockNumbers_raises raw e hnumbers with rfl | rfl | rfl | rfl
      all_goals simp [lockPair?, hnumbers, Returns]
    · simp only [lockPair?, hnumbers]
      split
      · simp [Returns, hnumbers]
      · simp [Returns, hnumbers]
  all_goals simp [lockPair?, Returns]

/-- The output holds an array nested too deep, or an infinite number among the
numbers of its first hundred elements. -/
def LockOutputRaises (py : Interpreter) (output : PyValue) : Prop :=
  ∃ text, lockPairText? output = some text ∧
    (Json.loads py text = .error .recursionError ∨
      ∃ rawPairs raw, Json.loads py text = .ok (.list rawPairs) ∧
        .dict raw ∈ rawPairs.take 100 ∧
        lockNumbers raw = .error .overflowError)

theorem parsePostgresLockPairs_returns_iff {py : Interpreter}
    {output : PyValue} :
    Returns (parsePostgresLockPairs py output) ↔
      ¬LockOutputRaises py output := by
  rcases htext : lockPairText? output with _ | text
  · simp [parsePostgresLockPairs, LockOutputRaises, htext, Returns]
  · simp only [LockOutputRaises, htext, Option.some.injEq, exists_eq_left']
    rcases hloads : Json.loads py text with e | value
    · rcases Json.loads_raises py text e hloads with rfl | rfl
      · simp [parsePostgresLockPairs, htext, hloads, Returns]
      · simp [parsePostgresLockPairs, htext, hloads, Returns]
    · rcases value with _ | b | n | f | t | rawPairs | raw
      case list =>
        have hparse : Returns (parsePostgresLockPairs py output) ↔
            Returns ((rawPairs.take 100).mapM (lockPair? py)) := by
          simp only [parsePostgresLockPairs, htext, hloads, returns_bind_iff]
          constructor
          · rintro ⟨pairs, hpairs, -⟩
            exact ⟨pairs, hpairs⟩
          · rintro ⟨pairs, hpairs⟩
            exact ⟨pairs, hpairs, returns_ok pairs.reduceOption⟩
        rw [hparse, returns_mapM_iff]
        constructor
        · rintro hrounds (hdeep | ⟨items, raw, hitems, hraw, hinfinite⟩)
          · cases hdeep
          · obtain rfl : rawPairs = items := by simpa using hitems
            exact lockPair?_returns_iff.mp (hrounds _ hraw) raw rfl hinfinite
        · intro hfinite value hvalue
          apply lockPair?_returns_iff.mpr
          rintro raw rfl hinfinite
          exact hfinite (Or.inr ⟨rawPairs, raw, rfl, hvalue, hinfinite⟩)
      all_goals simp [parsePostgresLockPairs, htext, hloads, Returns]

end UyuniAgent
