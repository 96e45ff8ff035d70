import Mathlib.Data.Finset.Card
import Mathlib.Data.Finset.Erase
import UyuniAgent.Incident.Store
import UyuniAgent.Support.Heapq

/-!
# The investigation queue

`InvestigationQueue` of `investigation_queue.py`: a heap of pending items
ordered by priority and arrival, the dictionary `_pending` from fingerprints to
the same items, and the fingerprints that workers hold.  Each method body runs
under the queue's condition lock, so it is one function from queue to queue.
-/

namespace UyuniAgent.Queue

open UyuniAgent.Incident (lower)

inductive EnqueueStatus
  | enqueued
  | coalesced
  | inFlight
  | rejectedFull
  | rejectedClosed
  deriving DecidableEq, Repr

inductive CancelStatus
  | cancelled
  | inFlight
  | notFound
  deriving DecidableEq, Repr

structure EnqueueResult (F : Type) where
  status : EnqueueStatus
  pending : ℕ
  inFlight : ℕ
  evictedFingerprint : Option F
  deriving DecidableEq

/-- `_QueueItem`.  Items are compared by priority and sequence only. -/
structure QueueItem (F W : Type) where
  priority : ℕ
  sequence : ℕ
  fingerprint : F
  payload : W
  deriving DecidableEq

/-- `priority_for_severity`. -/
def priorityForSeverity (severity : String) : ℕ :=
  if lower severity = "critical" then 0
  else if lower severity = "warning" then 1
  else if lower severity = "info" then 2
  else 3

variable {F W : Type}

def QueueItem.lt (item other : QueueItem F W) : Bool :=
  item.priority < other.priority ||
    (item.priority = other.priority && item.sequence < other.sequence)

def QueueItem.sameOrder (item other : QueueItem F W) : Bool :=
  item.priority = other.priority && item.sequence = other.sequence

structure QueueSettings where
  maxPending : ℕ
  workers : ℕ
  one_le_maxPending : 1 ≤ maxPending
  one_le_workers : 1 ≤ workers

structure InvestigationQueue (F W : Type) where
  heap : List (QueueItem F W)
  pending : OrderedDict F (QueueItem F W)
  inFlight : Finset F
  sequence : ℕ
  accepting : Bool
  closing : Bool
  enqueued : ℕ
  coalesced : ℕ
  completed : ℕ
  failed : ℕ
  rejected : ℕ
  evicted : ℕ
  cancelled : ℕ

namespace InvestigationQueue

def initial : InvestigationQueue F W where
  heap := []
  pending := OrderedDict.empty
  inFlight := ∅
  sequence := 0
  accepting := true
  closing := false
  enqueued := 0
  coalesced := 0
  completed := 0
  failed := 0
  rejected := 0
  evicted := 0
  cancelled := 0

/-- `_result`. -/
def result (q : InvestigationQueue F W) (status : EnqueueStatus)
    (evicted : Option F) : EnqueueResult F :=
  ⟨status, q.heap.length, q.inFlight.card, evicted⟩

/-- `self._heap.remove(item)`, which takes out the first equal item. -/
def removeFromHeap (heap : List (QueueItem F W)) (item : QueueItem F W) :
    List (QueueItem F W) :=
  heap.eraseP fun other => other.sameOrder item

/-- `max(self._heap, key=...)`: the first of the greatest items. -/
def worst? : List (QueueItem F W) → Option (QueueItem F W)
  | [] => none
  | item :: rest =>
      match worst? rest with
      | none => some item
      | some other => if item.lt other then some other else some item

variable [DecidableEq F]

/-- The branch of `enqueue` for a fingerprint that is already pending. -/
def coalesce (q : InvestigationQueue F W) (existing : QueueItem F W)
    (priority : ℕ) (fingerprint : F) (payload : W) :
    EnqueueResult F × InvestigationQueue F W :=
  let replacement : QueueItem F W :=
    ⟨min priority existing.priority, existing.sequence, fingerprint, payload⟩
  let heap := Heapq.heapify QueueItem.lt (removeFromHeap q.heap existing)
  let q' := { q with
    heap := Heapq.heapPush QueueItem.lt heap replacement
    pending := q.pending.set fingerprint replacement
    coalesced := q.coalesced + 1 }
  (q'.result .coalesced none, q')

/-- Take the least important item out of a full queue. -/
def evict (q : InvestigationQueue F W) (worst : QueueItem F W) :
    InvestigationQueue F W :=
  { q with
    heap := Heapq.heapify QueueItem.lt (removeFromHeap q.heap worst)
    pending := q.pending.erase worst.fingerprint
    evicted := q.evicted + 1 }

/-- The end of `enqueue`: append a new item. -/
def append (q : InvestigationQueue F W) (priority : ℕ) (fingerprint : F)
    (payload : W) (evicted : Option F) :
    EnqueueResult F × InvestigationQueue F W :=
  let item : QueueItem F W := ⟨priority, q.sequence, fingerprint, payload⟩
  let q' := { q with
    heap := Heapq.heapPush QueueItem.lt q.heap item
    pending := q.pending.set fingerprint item
    sequence := q.sequence + 1
    enqueued := q.enqueued + 1 }
  (q'.result .enqueued evicted, q')

def enqueue (cfg : QueueSettings) (q : InvestigationQueue F W)
    (fingerprint : F) (severity : String) (payload : W) :
    EnqueueResult F × InvestigationQueue F W :=
  let priority := priorityForSeverity severity
  if q.accepting = false then
    let q' := { q with rejected := q.rejected + 1 }
    (q'.result .rejectedClosed none, q')
  else if fingerprint ∈ q.inFlight then
    (q.result .inFlight none, q)
  else
    match q.pending.get? fingerprint with
    | some existing => q.coalesce existing priority fingerprint payload
    | none =>
        if q.heap.length < cfg.maxPending then
          q.append priority fingerprint payload none
        else
          match worst? q.heap with
          | none => q.append priority fingerprint payload none
          | some worst =>
              if worst.priority ≤ priority then
                let q' := { q with rejected := q.rejected + 1 }
                (q'.result .rejectedFull none, q')
              else
                (q.evict worst).append priority fingerprint payload
                  (some worst.fingerprint)

def cancel (q : InvestigationQueue F W) (fingerprint : F) :
    CancelStatus × InvestigationQueue F W :=
  match q.pending.get? fingerprint with
  | some item =>
      (.cancelled, { q with
        heap := Heapq.heapify QueueItem.lt (removeFromHeap q.heap item)
        pending := q.pending.erase fingerprint
        cancelled := q.cancelled + 1 })
  | none =>
      if fingerprint ∈ q.inFlight then (.inFlight, q) else (.notFound, q)

/-- `_next`, once its condition holds with a nonempty heap. -/
def next (q : InvestigationQueue F W) :
    Option (QueueItem F W × InvestigationQueue F W) :=
  match Heapq.heapPop QueueItem.lt q.heap with
  | none => none
  | some (item, heap) =>
      some (item, { q with
        heap := heap
        pending := q.pending.erase item.fingerprint
        inFlight := insert item.fingerprint q.inFlight })

/-- The handler of a popped item returned, or raised an exception. -/
def recordHandled (q : InvestigationQueue F W) (returned : Bool) :
    InvestigationQueue F W :=
  if returned then { q with completed := q.completed + 1 }
  else { q with failed := q.failed + 1 }

/-- The `finally` block of `_worker`. -/
def release (q : InvestigationQueue F W) (fingerprint : F) :
    InvestigationQueue F W :=
  { q with inFlight := q.inFlight.erase fingerprint }

end InvestigationQueue

end UyuniAgent.Queue
