import UyuniAgent.Detector.PostgresParsers
import UyuniAgent.Investigation.Citations
import UyuniAgent.Investigation.DeterministicAnalysis

/-!
# The blockers of a PostgreSQL analysis

`_postgres_blocked_transaction` takes the PIDs that it names from the context
of the anomaly, and searches the text of the cited record for the digits of
one of them.  What that record shows is what `parse_postgres_lock_pairs` reads
from it.
-/

namespace UyuniAgent.Investigation

open Raising

/-! ## The PIDs in a root cause -/

/-- The text holds an array, and the pairs are what the parser reads from
it. -/
structure Parses (py : Interpreter) (text : String) (pairs : List LockPair) :
    Prop where
  array : ∃ array elements, lockPairText? (.str text) = some array ∧
    Json.loads py array = .ok (.list elements)
  pairs : parsePostgresLockPairs py (.str text) = .ok pairs

/-! ## The context and the record -/

/-- The text holds an array, and none of the objects among its first hundred
elements stops the parser. -/
structure HoldsArray (py : Interpreter) (text : String)
    (elements : List PyValue) : Prop where
  array : ∃ array, lockPairText? (.str text) = some array ∧
    Json.loads py array = .ok (.list elements)
  finite : ∀ raw, .dict raw ∈ elements.take 100 →
    ¬StopsAtInfinity (lockValues raw)

section Elements

variable {py : Interpreter} {raw : List (String × PyValue)}

end Elements

section Records

variable {py : Interpreter} {text : String} {elements : List PyValue}
  {pairs : List LockPair}

/-- The pairs of a record are those of the elements of its array. -/
theorem Parses.mem_iff (h : Parses py text pairs)
    (helements : HoldsArray py text elements) {pair : LockPair} :
    pair ∈ pairs ↔ ∃ element ∈ elements.take 100,
      IsLockPair py element pair := by
  obtain ⟨array, harray, hloads⟩ := helements.array
  have hlock : lockElements py (.str text) = elements := by
    simp [lockElements, harray, hloads]
  obtain ⟨rounds, hrounds, hparse⟩ :=
    parsePostgresLockPairs_eq ⟨pairs, h.pairs⟩
  rw [hlock] at hrounds
  obtain rfl := Except.ok.inj (h.pairs.symm.trans hparse)
  rw [List.reduceOption_mem_iff]
  constructor
  · intro hmem
    obtain ⟨element, helement, hround⟩ := mem_of_mapM_eq_ok hrounds hmem
    exact ⟨element, helement, lockPair?_eq_some_iff.mp hround⟩
  · rintro ⟨element, helement, hpair⟩
    obtain ⟨round, hmem, hround⟩ := exists_of_mem_mapM hrounds helement
    rw [lockPair?_eq_some_iff.mpr hpair] at hround
    obtain rfl := Except.ok.inj hround
    exact hmem

end Records

end UyuniAgent.Investigation
