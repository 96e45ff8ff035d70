import UyuniAgent.Detector.PostgresInspection
import UyuniAgent.Support.PyFloat
import Mathlib.Data.List.ReduceOption

/-!
# The PostgreSQL parsers on arbitrary output

`parse_postgres_connection_snapshot`, and what both parsers return on any
output.  Both handle `TypeError` and `ValueError` only, and the snapshot parser
slices the groups outside of its handlers.
-/

namespace UyuniAgent

open PyValue (get getOr item toInt)
open Raising

/-! ## The connection snapshot -/

structure ConnectionGroup where
  database : String
  username : String
  application : String
  state : String
  connectionCount : ℤ
  oldestTransactionSeconds : ℤ
  longestStateSeconds : ℤ

/-- A snapshot that is not empty, so that `available` is true; its counts are
in the order of `integer_fields`. -/
structure ConnectionSnapshot where
  counts : List (String × ℤ)
  utilizationPercent : PyFloat
  normalCapacityExhausted : Bool
  groups : List ConnectionGroup

def integerFields : List String :=
  ["max_connections", "superuser_reserved_connections", "reserved_connections",
    "normal_connection_limit", "current_connections", "remaining_normal_slots",
    "active_connections", "idle_connections",
    "idle_in_transaction_connections", "oldest_idle_transaction_seconds"]

/-- `max(0, int(raw.get(field, 0)))`. -/
def countOf (raw : List (String × PyValue)) (field : String) :
    Except PyException ℤ := do
  let count ← (getOr raw field (.int 0)).toInt
  return max 0 count

/-- The numbers of a group, in the order in which they are read. -/
structure GroupNumbers where
  count : ℤ
  oldest : ℤ
  stateSeconds : ℤ

def groupNumbers (group : List (String × PyValue)) :
    Except PyException GroupNumbers := do
  let count ← countOf group "connection_count"
  let oldest ← countOf group "oldest_transaction_seconds"
  let stateSeconds ← countOf group "longest_state_seconds"
  return ⟨count, oldest, stateSeconds⟩

/-- One round of the loop over the groups: the group it appends, if any. -/
def connectionGroup? (py : Interpreter) :
    PyValue → Except PyException (Option ConnectionGroup)
  | .dict group =>
      match groupNumbers group with
      | .ok numbers =>
          .ok (some
            { database := lockText py group "database" "unknown" 128
              username := lockText py group "username" "unknown" 128
              application := lockText py group "application" "unspecified" 256
              state := lockText py group "state" "unknown" 64
              connectionCount := numbers.count
              oldestTransactionSeconds := numbers.oldest
              longestStateSeconds := numbers.stateSeconds })
      | .error .typeError => .ok none
      | .error .valueError => .ok none
      | .error e => .error e
  | _ => .ok none

/-- The object inside the output of the query. -/
def connectionSnapshotText? (output : PyValue) : Option String :=
  match output with
  | .str output =>
      let stripped := PyText.strip output
      if stripped = "" ∨ PyText.startsWith stripped "Salt API call failed:" then
        none
      else PyText.between '{' '}' stripped
  | _ => none

/-- `value is True`. -/
def isLiteralTrue : PyValue → Bool
  | .bool value => value
  | _ => false

/-- The part of the snapshot that is built inside of the handlers. -/
def snapshotNumbers (raw : List (String × PyValue)) :
    Except PyException (List (String × ℤ) × PyFloat) := do
  let counts ← integerFields.mapM (countOf raw)
  let utilization ←
    (getOr raw "utilization_percent" (.float (.finite 0))).toFloat
  return (integerFields.zip counts,
    PyFloat.max2 (.finite 0) (PyFloat.min2 (.finite 100) utilization))

/-- The loop over the groups, and the rest of the snapshot. -/
def snapshotWithGroups (py : Interpreter) (raw : List (String × PyValue))
    (numbers : List (String × ℤ) × PyFloat) :
    Except PyException ConnectionSnapshot := do
  let elements ← (getOr raw "groups" (.list [])).slice 100
  let groups ← elements.mapM (connectionGroup? py)
  return ⟨numbers.1, numbers.2,
    (getOr raw "normal_capacity_exhausted" (.bool false)).truthy,
    groups.reduceOption⟩

def parsePostgresConnectionSnapshot (py : Interpreter) (output : PyValue) :
    Except PyException (Option ConnectionSnapshot) :=
  match connectionSnapshotText? output with
  | none => .ok none
  | some text =>
      match Json.loads py text with
      | .ok (.dict raw) =>
          if !isLiteralTrue (get raw "available") then .ok none
          else
            match snapshotNumbers raw with
            | .ok numbers => do
                let snapshot ← snapshotWithGroups py raw numbers
                return some snapshot
            | .error .typeError => .ok none
            | .error .valueError => .ok none
            | .error e => .error e
      | .ok _ => .ok none
      | .error .typeError => .ok none
      | .error .valueError => .ok none
      | .error e => .error e

/-! ## Numbers that are infinite -/

/-- The first of the values that is missing or has no integer is an infinite
float. -/
def StopsAtInfinity (values : List (Option PyValue)) : Prop :=
  ∃ before negative after,
    values = before ++ some (.float (.infinite negative)) :: after ∧
      ∀ value ∈ before, ∃ found ∈ value, Returns found.toInt

/-- The number of a value that may be missing. -/
def integerOf : Option PyValue → Except PyException ℤ
  | some value => value.toInt
  | none => .error .keyError

theorem integerOf_returns_iff {value : Option PyValue} :
    Returns (integerOf value) ↔ ∃ found ∈ value, Returns found.toInt := by
  rcases value with _ | found
  · simp [integerOf, Returns]
  · simp [integerOf]

theorem mapM_integerOf_iff {values : List (Option PyValue)} :
    values.mapM integerOf = .error .overflowError ↔
      StopsAtInfinity values := by
  have hinfinite {value : Option PyValue} :
      integerOf value = .error .overflowError ↔
        ∃ negative, value = some (.float (.infinite negative)) := by
    rcases value with _ | found
    · simp [integerOf]
    · simp [integerOf, PyValue.toInt_eq_overflowError_iff]
  rw [mapM_eq_error_iff]
  constructor
  · rintro ⟨before, value, after, rfl, hbefore, hvalue⟩
    obtain ⟨negative, rfl⟩ := hinfinite.mp hvalue
    refine ⟨before, negative, after, rfl, ?_⟩
    intro read hread
    exact integerOf_returns_iff.mp (hbefore read hread)
  · rintro ⟨before, negative, after, rfl, hbefore⟩
    refine ⟨before, _, after, rfl, ?_, hinfinite.mpr ⟨negative, rfl⟩⟩
    intro read hread
    exact integerOf_returns_iff.mpr (hbefore read hread)

/-- The numbers of a lock pair, as they are looked up. -/
def lockValues (raw : List (String × PyValue)) : List (Option PyValue) :=
  [raw.lookup "blocked_pid", raw.lookup "blocker_pid",
    raw.lookup "blocked_seconds",
    some (getOr raw "blocker_transaction_seconds" (.int 0))]

/-- The numbers under these fields, which have a default. -/
def countValues (fields : List String) (raw : List (String × PyValue)) :
    List (Option PyValue) :=
  fields.map fun field => some (getOr raw field (.int 0))

theorem item_toInt (raw : List (String × PyValue)) (key : String) :
    item raw key >>= toInt = integerOf (raw.lookup key) := by
  simp only [item]
  split
  next value hvalue => rw [hvalue]; rfl
  next hmissing => rw [hmissing]; rfl

theorem lockNumbers_overflow_iff {raw : List (String × PyValue)} :
    lockNumbers raw = .error .overflowError ↔
      StopsAtInfinity (lockValues raw) := by
  rw [← mapM_integerOf_iff, lockNumbers, lockValues, item_toInt, item_toInt,
    item_toInt]
  have hlast : ((raw.lookup "blocker_transaction_seconds").getD
      (.int 0)).toInt = integerOf (some (getOr raw
        "blocker_transaction_seconds" (.int 0))) := rfl
  rw [hlast]
  simp only [List.mapM_cons, List.mapM_nil, bind, Except.bind]
  rcases integerOf (raw.lookup "blocked_pid") with e | blockedPid
  · simp
  rcases integerOf (raw.lookup "blocker_pid") with e | blockerPid
  · simp
  rcases integerOf (raw.lookup "blocked_seconds") with e | blockedSeconds
  · simp
  rcases integerOf (some (getOr raw "blocker_transaction_seconds" (.int 0)))
    with e | blockerSeconds
  · simp
  · simp [pure, Except.pure]

theorem countOf_eq (raw : List (String × PyValue)) (field : String) :
    countOf raw field =
      (integerOf (some (getOr raw field (.int 0)))).map (max 0) := by
  rw [countOf]
  rcases hcount : (getOr raw field (.int 0)).toInt with e | count
  · simp [integerOf, hcount, bind, Except.bind, Except.map]
  · simp [integerOf, hcount, bind, Except.bind, Except.map, pure, Except.pure]

def groupFields : List String :=
  ["connection_count", "oldest_transaction_seconds", "longest_state_seconds"]

theorem groupNumbers_overflow_iff {group : List (String × PyValue)} :
    groupNumbers group = .error .overflowError ↔
      StopsAtInfinity (countValues groupFields group) := by
  rw [← mapM_integerOf_iff, groupNumbers, countValues, groupFields]
  simp only [List.map_cons, List.map_nil, List.mapM_cons, List.mapM_nil,
    countOf_eq, bind, Except.bind]
  rcases integerOf (some (getOr group "connection_count" (.int 0)))
    with e | count
  · simp [Except.map]
  rcases integerOf (some (getOr group "oldest_transaction_seconds" (.int 0)))
    with e | oldest
  · simp [Except.map]
  rcases integerOf (some (getOr group "longest_state_seconds" (.int 0)))
    with e | stateSeconds
  · simp [Except.map]
  · simp [Except.map, pure, Except.pure]

theorem mapM_countOf (fields : List String) (raw : List (String × PyValue)) :
    fields.mapM (countOf raw) =
      ((countValues fields raw).mapM integerOf).map (·.map (max 0)) := by
  induction fields with
  | nil => rfl
  | cons field fields ih =>
      have hcons : countValues (field :: fields) raw =
          some (getOr raw field (.int 0)) :: countValues fields raw := rfl
      rw [List.mapM_cons, ih, countOf_eq, hcons, List.mapM_cons]
      rcases integerOf (some (getOr raw field (.int 0))) with e | count
      · rfl
      rcases (countValues fields raw).mapM integerOf with e | counts
      · rfl
      · rfl

/-! ## When the snapshot parser returns -/

/-- All numbers of the snapshot can be read. -/
structure NumbersRead (raw : List (String × PyValue)) : Prop where
  counts : ∀ value ∈ countValues integerFields raw, ∃ found ∈ value,
    Returns found.toInt
  utilization :
    Returns (getOr raw "utilization_percent" (.float (.finite 0))).toFloat

/-- What no handler of the snapshot parser catches: an infinite count, a
utilization that is too large for a float, groups that cannot be sliced, and an
infinite number in one of the first hundred groups. -/
inductive SnapshotFault (raw : List (String × PyValue)) : Prop
  | count (h : StopsAtInfinity (countValues integerFields raw))
  | utilization
      (counts : ∀ value ∈ countValues integerFields raw, ∃ found ∈ value,
        Returns found.toInt)
      (h : (getOr raw "utilization_percent" (.float (.finite 0))).Overflows)
  | groups (numbers : NumbersRead raw)
      (h : ¬Returns ((getOr raw "groups" (.list [])).slice 100))
  | group (numbers : NumbersRead raw) (elements : List PyValue)
      (group : List (String × PyValue))
      (slice : (getOr raw "groups" (.list [])).slice 100 = .ok elements)
      (element : .dict group ∈ elements)
      (h : StopsAtInfinity (countValues groupFields group))

theorem counts_returns_iff {raw : List (String × PyValue)} :
    Returns (integerFields.mapM (countOf raw)) ↔
      ∀ value ∈ countValues integerFields raw, ∃ found ∈ value,
        Returns found.toInt := by
  simp only [← integerOf_returns_iff, ← returns_mapM_iff, mapM_countOf]
  rcases (countValues integerFields raw).mapM integerOf with e | counts
  · simp [Returns, Except.map]
  · simp [Returns, Except.map]

theorem counts_overflow_iff {raw : List (String × PyValue)} :
    integerFields.mapM (countOf raw) = .error .overflowError ↔
      StopsAtInfinity (countValues integerFields raw) := by
  rw [← mapM_integerOf_iff, mapM_countOf]
  rcases (countValues integerFields raw).mapM integerOf with e | counts
  · simp [Except.map]
  · simp [Except.map]

theorem countOf_raises (raw : List (String × PyValue)) (field : String) :
    RaisesOnly PyValue.IsConversionError (countOf raw field) :=
  (PyValue.toInt_raises _).bind fun _ _ => RaisesOnly.ok _

/-- The numbers of a snapshot are read, or one of them raises. -/
theorem snapshotNumbers_cases (raw : List (String × PyValue)) :
    (∃ numbers, snapshotNumbers raw = .ok numbers ∧ NumbersRead raw) ∨
      ((snapshotNumbers raw = .error .typeError ∨
          snapshotNumbers raw = .error .valueError) ∧ ¬SnapshotFault raw) ∨
      (snapshotNumbers raw = .error .overflowError ∧ SnapshotFault raw) := by
  rcases hcounts : integerFields.mapM (countOf raw) with e | counts
  · have hnumbers : snapshotNumbers raw = .error e := by
      rw [snapshotNumbers, hcounts]
      rfl
    have hunread : ¬∀ value ∈ countValues integerFields raw,
        ∃ found ∈ value, Returns found.toInt := by
      rw [← counts_returns_iff, hcounts]
      exact not_returns_error e
    have hnofault (hother : e ≠ .overflowError) : ¬SnapshotFault raw := by
      rintro (h | ⟨hread, -⟩ | ⟨hread, -⟩ | ⟨hread, -⟩)
      · rw [counts_overflow_iff.mpr h] at hcounts
        exact hother (Except.error.inj hcounts).symm
      · exact hunread hread
      · exact hunread hread.counts
      · exact hunread hread.counts
    have hraises : PyValue.IsConversionError e := by
      obtain ⟨before, field, after, -, -, hfield⟩ :=
        mapM_eq_error_iff.mp hcounts
      exact countOf_raises raw field e hfield
    rw [hnumbers]
    rcases hraises with rfl | rfl | rfl
    · exact Or.inr (Or.inl ⟨Or.inl rfl, hnofault (by decide)⟩)
    · exact Or.inr (Or.inl ⟨Or.inr rfl, hnofault (by decide)⟩)
    · exact Or.inr (Or.inr ⟨rfl, .count (counts_overflow_iff.mp hcounts)⟩)
  · have hread := counts_returns_iff.mp ⟨counts, hcounts⟩
    have hcount : ¬StopsAtInfinity (countValues integerFields raw) := by
      rw [← counts_overflow_iff, hcounts]
      exact fun h => by cases h
    have hnofault
        (hfloat : ¬Returns (getOr raw "utilization_percent"
          (.float (.finite 0))).toFloat)
        (hsmall : ¬(getOr raw "utilization_percent"
          (.float (.finite 0))).Overflows) : ¬SnapshotFault raw := by
      rintro (h | ⟨-, hlarge⟩ | ⟨hread, -⟩ | ⟨hread, -⟩)
      · exact hcount h
      · exact hsmall hlarge
      · exact hfloat hread.utilization
      · exact hfloat hread.utilization
    rw [snapshotNumbers, hcounts]
    simp only [bind, Except.bind]
    rcases (getOr raw "utilization_percent" (.float (.finite 0))).toFloat_cases
      with ⟨number, hok, -⟩ | ⟨herror, hsmall⟩ | ⟨herror, hsmall⟩ |
        ⟨herror, hlarge⟩
    · rw [hok]
      exact Or.inl ⟨_, rfl, hread, number, hok⟩
    · have hfloat := hnofault (herror ▸ not_returns_error _) hsmall
      rw [herror]
      exact Or.inr (Or.inl ⟨Or.inl rfl, hfloat⟩)
    · have hfloat := hnofault (herror ▸ not_returns_error _) hsmall
      rw [herror]
      exact Or.inr (Or.inl ⟨Or.inr rfl, hfloat⟩)
    · rw [herror]
      exact Or.inr (Or.inr ⟨rfl, .utilization hread hlarge⟩)

theorem groupNumbers_raises (group : List (String × PyValue)) :
    RaisesOnly PyValue.IsConversionError (groupNumbers group) := by
  refine (countOf_raises group _).bind fun _ _ => ?_
  refine (countOf_raises group _).bind fun _ _ => ?_
  exact (countOf_raises group _).bind fun _ _ => RaisesOnly.ok _

theorem connectionGroup?_returns_iff {py : Interpreter} {value : PyValue} :
    Returns (connectionGroup? py value) ↔
      ∀ group, value = .dict group →
        ¬StopsAtInfinity (countValues groupFields group) := by
  simp only [← groupNumbers_overflow_iff]
  rcases value with _ | b | n | f | t | items | group
  case dict =>
    rcases hnumbers : groupNumbers group with e | numbers
    · rcases groupNumbers_raises group e hnumbers with rfl | rfl | rfl
      all_goals simp [connectionGroup?, hnumbers, Returns]
    · simp [connectionGroup?, hnumbers, Returns]
  all_goals simp [connectionGroup?, Returns]

/-- The output holds an object of a snapshot with such a fault, or one that is
nested too deep. -/
def SnapshotOutputFault (py : Interpreter) (output : PyValue) : Prop :=
  ∃ text, connectionSnapshotText? output = some text ∧
    (Json.loads py text = .error .recursionError ∨
      ∃ raw, Json.loads py text = .ok (.dict raw) ∧
        get raw "available" = .bool true ∧ SnapshotFault raw)

theorem snapshotWithGroups_returns_iff {py : Interpreter}
    {raw : List (String × PyValue)} {numbers : List (String × ℤ) × PyFloat}
    (hread : NumbersRead raw) :
    Returns (snapshotWithGroups py raw numbers) ↔ ¬SnapshotFault raw := by
  rw [snapshotWithGroups, returns_bind_iff]
  constructor
  · rintro ⟨elements, hslice, hrest⟩ hfault
    obtain ⟨groups, hgroups, -⟩ := returns_bind_iff.mp hrest
    have hrounds := returns_mapM_iff.mp ⟨groups, hgroups⟩
    rcases hfault with hcount | ⟨-, hlarge⟩ | ⟨-, hno⟩ |
      ⟨-, elements', group, hslice', hmem, hstop⟩
    · have hcounts := counts_returns_iff.mpr hread.counts
      rw [counts_overflow_iff.mpr hcount] at hcounts
      exact not_returns_error _ hcounts
    · obtain ⟨number, hnumber⟩ := hread.utilization
      rcases (getOr raw "utilization_percent"
          (.float (.finite 0))).toFloat_cases with
        ⟨-, -, hsmall⟩ | ⟨-, hsmall⟩ | ⟨-, hsmall⟩ | ⟨herror, -⟩
      · exact hsmall hlarge
      · exact hsmall hlarge
      · exact hsmall hlarge
      · rw [hnumber] at herror
        cases herror
    · exact hno ⟨elements, hslice⟩
    · obtain rfl := Except.ok.inj (hslice.symm.trans hslice')
      exact connectionGroup?_returns_iff.mp (hrounds _ hmem) group rfl hstop
  · intro hsound
    obtain ⟨elements, hslice⟩ :
        Returns ((getOr raw "groups" (.list [])).slice 100) := by
      by_contra hno
      exact hsound (.groups hread hno)
    obtain ⟨groups, hgroups⟩ :
        Returns (elements.mapM (connectionGroup? py)) := by
      rw [returns_mapM_iff]
      intro element hmem
      apply connectionGroup?_returns_iff.mpr
      rintro group rfl hstop
      exact hsound (.group hread elements group hslice hmem hstop)
    exact ⟨elements, hslice, returns_bind_iff.mpr ⟨groups, hgroups,
      returns_ok _⟩⟩

theorem isLiteralTrue_iff {value : PyValue} :
    isLiteralTrue value = true ↔ value = .bool true := by
  rcases value with _ | flag | _ | _ | _ | _ | _
  all_goals simp [isLiteralTrue]

theorem parsePostgresConnectionSnapshot_returns_iff {py : Interpreter}
    {output : PyValue} :
    Returns (parsePostgresConnectionSnapshot py output) ↔
      ¬SnapshotOutputFault py output := by
  rcases htext : connectionSnapshotText? output with _ | text
  · simp [parsePostgresConnectionSnapshot, SnapshotOutputFault, htext, Returns]
  simp only [SnapshotOutputFault, htext, Option.some.injEq, exists_eq_left']
  rcases hloads : Json.loads py text with e | value
  · rcases Json.loads_raises py text e hloads with rfl | rfl
    · simp [parsePostgresConnectionSnapshot, htext, hloads, Returns]
    · simp [parsePostgresConnectionSnapshot, htext, hloads, Returns]
  rcases value with _ | b | n | f | t | items | raw
  case dict =>
    by_cases havailable : get raw "available" = .bool true
    · have hparse : parsePostgresConnectionSnapshot py output =
          match snapshotNumbers raw with
          | .ok numbers => do
              let snapshot ← snapshotWithGroups py raw numbers
              return some snapshot
          | .error .typeError => .ok none
          | .error .valueError => .ok none
          | .error e => .error e := by
        simp only [parsePostgresConnectionSnapshot, htext, hloads,
          isLiteralTrue_iff.mpr havailable, Bool.not_true, Bool.false_eq_true,
          if_false]
      rw [hparse]
      simp only [reduceCtorEq, Except.ok.injEq, PyValue.dict.injEq, false_or,
        exists_eq_left', havailable, true_and]
      rcases snapshotNumbers_cases raw with ⟨numbers, hnumbers, hread⟩ |
        ⟨hcaught | hcaught, hsound⟩ | ⟨hraised, hfault⟩
      · rw [hnumbers, ← snapshotWithGroups_returns_iff hread]
        simp only [returns_bind_iff]
        constructor
        · rintro ⟨snapshot, hsnapshot, -⟩
          exact ⟨snapshot, hsnapshot⟩
        · rintro ⟨snapshot, hsnapshot⟩
          exact ⟨snapshot, hsnapshot, returns_ok _⟩
      · rw [hcaught]
        exact iff_of_true (returns_ok _) hsound
      · rw [hcaught]
        exact iff_of_true (returns_ok _) hsound
      · rw [hraised]
        exact iff_of_false (not_returns_error _) (not_not.mpr hfault)
    · have hflag : isLiteralTrue (get raw "available") = false := by
        rw [← Bool.not_eq_true, isLiteralTrue_iff]
        exact havailable
      simp [parsePostgresConnectionSnapshot, htext, hloads, hflag, Returns,
        havailable]
  all_goals simp [parsePostgresConnectionSnapshot, htext, hloads, Returns]

/-! ## What the parsers return -/

/-- The bounded texts of a pair, each with its bound. -/
def LockPair.boundedTexts (pair : LockPair) : List (String × ℕ) :=
  [(pair.database, 128), (pair.blockedUser, 128),
    (pair.blockedApplication, 256), (pair.blockedClient, 128),
    (pair.blockedState, 64), (pair.waitEvent, 128), (pair.blockedQueryId, 64),
    (pair.blockedCommand, 32), (pair.blockerUser, 128),
    (pair.blockerApplication, 256), (pair.blockerClient, 128),
    (pair.blockerState, 64), (pair.blockerQueryId, 64),
    (pair.blockerCommand, 32)]

structure LockPair.Valid (pair : LockPair) : Prop where
  blockedPid : 0 < pair.blockedPid
  blockerPid : 0 < pair.blockerPid
  blockedSeconds : 0 ≤ pair.blockedSeconds
  blockerSeconds : 0 ≤ pair.blockerTransactionSeconds
  texts : ∀ bounded ∈ pair.boundedTexts, bounded.1.length ≤ bounded.2
  waitEventType : ∀ text ∈ pair.blockerWaitEventType, text.length ≤ 128

/-- The element is an object that waits for a lock, with numbers that can be
read and two positive PIDs; and the pair is made from it. -/
def IsLockPair (py : Interpreter) (element : PyValue) (pair : LockPair) :
    Prop :=
  ∃ raw numbers, element = .dict raw ∧ lockNumbers raw = .ok numbers ∧
    get raw "wait_event_type" = .str "Lock" ∧ 0 < numbers.blockedPid ∧
    0 < numbers.blockerPid ∧ pair = lockPairOf py raw numbers

/-- The pairs of the elements that have one, in the order of these. -/
def PairsOf (py : Interpreter) (elements : List PyValue)
    (pairs : List LockPair) : Prop :=
  ∃ marks, List.Forall₂
      (fun element mark => ∀ pair, mark = some pair ↔
        IsLockPair py element pair) elements marks ∧
    pairs = marks.reduceOption

/-- The elements of the array in the output. -/
def lockElements (py : Interpreter) (output : PyValue) : List PyValue :=
  match (lockPairText? output).map (Json.loads py) with
  | some (.ok (.list rawPairs)) => rawPairs
  | _ => []

structure ConnectionSnapshot.Valid (snapshot : ConnectionSnapshot) : Prop where
  fields : snapshot.counts.map Prod.fst = integerFields
  counts : ∀ count ∈ snapshot.counts, 0 ≤ count.2
  utilization : ∃ percent, snapshot.utilizationPercent = .finite percent ∧
    0 ≤ percent ∧ percent ≤ 100
  atMost : snapshot.groups.length ≤ 100
  groups : ∀ group ∈ snapshot.groups, 0 ≤ group.connectionCount ∧
    0 ≤ group.oldestTransactionSeconds ∧ 0 ≤ group.longestStateSeconds

/-- `parse_postgres_lock_pairs` returns at most a hundred valid pairs, those of
the well-formed elements. -/
def LocksParsed (py : Interpreter) (output : PyValue) : Prop :=
  ∃ pairs, parsePostgresLockPairs py output = .ok pairs ∧
    pairs.length ≤ 100 ∧ (∀ pair ∈ pairs, pair.Valid) ∧
    PairsOf py ((lockElements py output).take 100) pairs

/-- `parse_postgres_connection_snapshot` returns a valid snapshot or an empty
one. -/
def SnapshotParsed (py : Interpreter) (output : PyValue) : Prop :=
  ∃ snapshot?, parsePostgresConnectionSnapshot py output = .ok snapshot? ∧
    ∀ snapshot ∈ snapshot?, snapshot.Valid

section Parsed

variable {py : Interpreter} {output : PyValue}

theorem lockPair?_eq_some_iff {element : PyValue} {pair : LockPair} :
    lockPair? py element = .ok (some pair) ↔ IsLockPair py element pair := by
  have hwait {value : PyValue} : isLockWait value = true ↔
      value = .str "Lock" := by
    rcases value with _ | _ | _ | _ | text | _ | _
    all_goals simp [isLockWait]
  constructor
  · intro h
    rcases element with _ | _ | _ | _ | _ | _ | raw
    case dict =>
      rcases hnumbers : lockNumbers raw with e | numbers
      · rcases lockNumbers_raises raw e hnumbers with rfl | rfl | rfl | rfl
        all_goals simp [lockPair?, hnumbers] at h
      · simp only [lockPair?, hnumbers] at h
        split at h
        next hvalid =>
          obtain ⟨hlock, hblocked, hblocker⟩ := hvalid
          obtain rfl := Option.some.inj (Except.ok.inj h)
          exact ⟨raw, numbers, rfl, hnumbers, hwait.mp hlock, hblocked,
            hblocker, rfl⟩
        next => cases h
    all_goals cases h
  · rintro ⟨raw, numbers, rfl, hnumbers, hlock, hblocked, hblocker, rfl⟩
    simp [lockPair?, hnumbers, hwait.mpr hlock, hblocked, hblocker]

theorem length_take_le (limit : ℕ) (text : String) :
    (PyText.take limit text).length ≤ limit := by
  simp [PyText.take]

theorem IsLockPair.valid {element : PyValue} {pair : LockPair}
    (h : IsLockPair py element pair) : pair.Valid := by
  obtain ⟨raw, numbers, -, hnumbers, -, hblocked, hblocker, rfl⟩ := h
  have hseconds : 0 ≤ numbers.blockedSeconds ∧ 0 ≤ numbers.blockerSeconds := by
    obtain ⟨_, -, h⟩ := bind_eq_ok_iff.mp hnumbers
    obtain ⟨_, -, h⟩ := bind_eq_ok_iff.mp h
    obtain ⟨_, -, h⟩ := bind_eq_ok_iff.mp h
    obtain ⟨_, -, h⟩ := bind_eq_ok_iff.mp h
    obtain rfl := Except.ok.inj h
    exact ⟨le_max_left 0 _, le_max_left 0 _⟩
  refine ⟨hblocked, hblocker, hseconds.1, hseconds.2, ?_, ?_⟩
  · simp only [LockPair.boundedTexts, lockPairOf, List.forall_mem_cons,
      List.not_mem_nil, false_implies, implies_true, and_true]
    simp only [lockText, length_take_le, and_self]
  · intro text htext
    simp only [lockPairOf] at htext
    split at htext
    · cases htext
    · obtain rfl := Option.some.inj htext
      exact length_take_le 128 _

/-- What is returned comes from the loop over the elements. -/
theorem parsePostgresLockPairs_eq
    (h : Returns (parsePostgresLockPairs py output)) :
    ∃ rounds, ((lockElements py output).take 100).mapM (lockPair? py) =
        .ok rounds ∧
      parsePostgresLockPairs py output = .ok rounds.reduceOption := by
  rcases htext : lockPairText? output with _ | text
  · exact ⟨[], by simp [lockElements, htext, pure, Except.pure],
      by simp [parsePostgresLockPairs, htext, List.reduceOption]⟩
  rcases hloads : Json.loads py text with e | value
  · rcases Json.loads_raises py text e hloads with rfl | rfl
    · exact ⟨[], by simp [lockElements, htext, hloads, pure, Except.pure],
        by simp [parsePostgresLockPairs, htext, hloads, List.reduceOption]⟩
    · simp [parsePostgresLockPairs, htext, hloads, Returns] at h
  rcases value with _ | b | n | f | t | rawPairs | raw
  case list =>
    simp only [parsePostgresLockPairs, htext, hloads] at h ⊢
    obtain ⟨rounds, hrounds, -⟩ := returns_bind_iff.mp h
    refine ⟨rounds, by simpa [lockElements, htext, hloads] using hrounds, ?_⟩
    rw [hrounds]
    rfl
  all_goals exact ⟨[], by simp [lockElements, htext, hloads, pure, Except.pure],
    by simp [parsePostgresLockPairs, htext, hloads, List.reduceOption]⟩

theorem locksParsed_of_returns
    (h : Returns (parsePostgresLockPairs py output)) :
    LocksParsed py output := by
  obtain ⟨rounds, hrounds, hparse⟩ := parsePostgresLockPairs_eq h
  have hforall := mapM_eq_ok_iff.mp hrounds
  refine ⟨rounds.reduceOption, hparse, ?_, ?_, rounds, ?_, rfl⟩
  · calc
      rounds.reduceOption.length ≤ rounds.length :=
        List.reduceOption_length_le rounds
      _ = ((lockElements py output).take 100).length := hforall.length_eq.symm
      _ ≤ 100 := List.length_take_le 100 _
  · intro pair hpair
    obtain ⟨element, -, helement⟩ :=
      mem_of_mapM_eq_ok hrounds (List.reduceOption_mem_iff.mp hpair)
    exact (lockPair?_eq_some_iff.mp helement).valid
  · refine hforall.imp fun element mark hmark pair => ?_
    rw [← lockPair?_eq_some_iff, hmark, Except.ok.injEq]

theorem countOf_nonneg {raw : List (String × PyValue)} {field : String}
    {count : ℤ} (h : countOf raw field = .ok count) : 0 ≤ count := by
  obtain ⟨value, -, hvalue⟩ := bind_eq_ok_iff.mp h
  obtain rfl := Except.ok.inj hvalue
  exact le_max_left 0 value

theorem connectionGroup?_nonneg {element : PyValue} {group : ConnectionGroup}
    (h : connectionGroup? py element = .ok (some group)) :
    0 ≤ group.connectionCount ∧ 0 ≤ group.oldestTransactionSeconds ∧
      0 ≤ group.longestStateSeconds := by
  rcases element with _ | _ | _ | _ | _ | _ | raw
  case dict =>
    rcases hnumbers : groupNumbers raw with e | numbers
    · rcases groupNumbers_raises raw e hnumbers with rfl | rfl | rfl
      all_goals simp [connectionGroup?, hnumbers] at h
    · simp only [connectionGroup?, hnumbers] at h
      obtain rfl := Option.some.inj (Except.ok.inj h)
      obtain ⟨count, hcount, hrest⟩ := bind_eq_ok_iff.mp hnumbers
      obtain ⟨oldest, holdest, hrest⟩ := bind_eq_ok_iff.mp hrest
      obtain ⟨stateSeconds, hstate, hlast⟩ := bind_eq_ok_iff.mp hrest
      obtain rfl := Except.ok.inj hlast
      exact ⟨countOf_nonneg hcount, countOf_nonneg holdest,
        countOf_nonneg hstate⟩
  all_goals cases h

theorem snapshotWithGroups_valid {raw : List (String × PyValue)}
    {numbers : List (String × ℤ) × PyFloat} {snapshot : ConnectionSnapshot}
    (hnumbers : snapshotNumbers raw = .ok numbers)
    (h : snapshotWithGroups py raw numbers = .ok snapshot) :
    snapshot.Valid := by
  obtain ⟨counts, hcounts, hrest⟩ := bind_eq_ok_iff.mp hnumbers
  obtain ⟨utilization, -, hlast⟩ := bind_eq_ok_iff.mp hrest
  obtain rfl := Except.ok.inj hlast
  obtain ⟨elements, hslice, hrest⟩ := bind_eq_ok_iff.mp h
  obtain ⟨groups, hgroups, hlast⟩ := bind_eq_ok_iff.mp hrest
  obtain rfl := Except.ok.inj hlast
  have hlength := (mapM_eq_ok_iff.mp hcounts).length_eq
  refine ⟨?_, ?_, ?_, ?_, ?_⟩
  · exact List.map_fst_zip hlength.le
  · rintro ⟨field, count⟩ hmem
    obtain ⟨field', -, hcount⟩ :=
      mem_of_mapM_eq_ok hcounts (List.of_mem_zip hmem).2
    exact countOf_nonneg hcount
  · exact PyFloat.clamp_spec (by norm_num) utilization
  · calc
      groups.reduceOption.length ≤ groups.length :=
        List.reduceOption_length_le groups
      _ = elements.length := (mapM_eq_ok_iff.mp hgroups).length_eq.symm
      _ ≤ 100 := PyValue.slice_length hslice
  · intro group hgroup
    obtain ⟨element, -, helement⟩ :=
      mem_of_mapM_eq_ok hgroups (List.reduceOption_mem_iff.mp hgroup)
    exact connectionGroup?_nonneg helement

theorem snapshotParsed_of_returns
    (h : Returns (parsePostgresConnectionSnapshot py output)) :
    SnapshotParsed py output := by
  obtain ⟨snapshot?, hsnapshot⟩ := h
  refine ⟨snapshot?, hsnapshot, ?_⟩
  rintro snapshot rfl
  simp only [parsePostgresConnectionSnapshot] at hsnapshot
  split at hsnapshot
  · cases hsnapshot
  split at hsnapshot
  next text _ _ raw hloads =>
    split at hsnapshot
    · cases hsnapshot
    split at hsnapshot
    next numbers hnumbers =>
      obtain ⟨snapshot', hgroups, hlast⟩ := bind_eq_ok_iff.mp hsnapshot
      obtain rfl := Option.some.inj (Except.ok.inj hlast)
      exact snapshotWithGroups_valid hnumbers hgroups
    all_goals cases hsnapshot
  all_goals cases hsnapshot

end Parsed

/-- The output holds an array nested too deep, or one among whose first hundred
elements is an object with an infinite number. -/
def LockOutputFault (py : Interpreter) (output : PyValue) : Prop :=
  ∃ text, lockPairText? output = some text ∧
    (Json.loads py text = .error .recursionError ∨
      ∃ rawPairs raw, Json.loads py text = .ok (.list rawPairs) ∧
        .dict raw ∈ rawPairs.take 100 ∧ StopsAtInfinity (lockValues raw))

/-- Both parsers return, and what they return is valid, on exactly the outputs
without such a number, such groups, and such a depth. -/
theorem parsers_total_iff (py : Interpreter) (output : String) :
    (LocksParsed py (.str output) ∧ SnapshotParsed py (.str output)) ↔
      ¬LockOutputFault py (.str output) ∧
        ¬SnapshotOutputFault py (.str output) := by
  simp only [LockOutputFault, ← lockNumbers_overflow_iff]
  rw [← LockOutputRaises, ← parsePostgresLockPairs_returns_iff,
    ← parsePostgresConnectionSnapshot_returns_iff]
  constructor
  · rintro ⟨⟨pairs, hpairs, -⟩, snapshot?, hsnapshot, -⟩
    exact ⟨⟨pairs, hpairs⟩, snapshot?, hsnapshot⟩
  · rintro ⟨hlocks, hsnapshot⟩
    exact ⟨locksParsed_of_returns hlocks, snapshotParsed_of_returns hsnapshot⟩

/-- An infinite PID raises an exception. -/
theorem infinite_pid_raises :
    ¬∀ (py : Interpreter) (output : String),
      LocksParsed py (.str output) ∧ SnapshotParsed py (.str output) := by
  intro hall
  obtain ⟨⟨pairs, hpairs, -⟩, -⟩ :=
    hall ⟨1000, fun _ => ""⟩ "[\x7b\"blocked_pid\":Infinity\x7d]"
  have hraises : parsePostgresLockPairs ⟨1000, fun _ => ""⟩
      (.str "[\x7b\"blocked_pid\":Infinity\x7d]") = .error .overflowError := by
    decide +kernel
  rw [hraises] at hpairs
  cases hpairs

end UyuniAgent
