import UyuniAgent.Queue.Exclusivity
import UyuniAgent.Support.StableSort

/-!
# The queue as a sorted list

What the queue is for, stated without a heap: a list of bounded length, sorted
by severity and arrival, whose first element is worked on next and whose last
element makes room.  Every answer of an open queue is the answer of this list.
-/

namespace UyuniAgent.Queue

open Transition StableSort

variable {F W : Type}

/-! ## The list -/

/-- `item` is worked on before `other`, if it is not `other` itself. -/
def QueueItem.Before (item other : QueueItem F W) : Prop :=
  item.priority < other.priority ∨
    (item.priority = other.priority ∧ item.sequence ≤ other.sequence)

instance : DecidableRel (@QueueItem.Before F W) :=
  fun _ _ => inferInstanceAs (Decidable (_ ∨ _))

instance : Std.Total (@QueueItem.Before F W) where
  total := by
    intro item other
    simp only [QueueItem.Before]
    omega

instance : IsTrans (QueueItem F W) QueueItem.Before where
  trans := by
    intro item other third
    simp only [QueueItem.Before]
    omega

theorem QueueItem.lt_eq_false_iff {item other : QueueItem F W} :
    item.lt other = false ↔ other.Before item := by
  simp only [QueueItem.lt, QueueItem.Before, Bool.or_eq_false_iff,
    Bool.and_eq_false_iff, decide_eq_false_iff_not]
  omega

structure PriorityList (F W : Type) where
  items : List (QueueItem F W)
  inFlight : Finset F
  arrivals : ℕ

namespace PriorityList

def initial : PriorityList F W := ⟨[], ∅, 0⟩

def result (l : PriorityList F W) (status : EnqueueStatus)
    (evicted : Option F) : EnqueueResult F :=
  ⟨status, l.items.length, l.inFlight.card, evicted⟩

variable [DecidableEq F]

def pending? (l : PriorityList F W) (fingerprint : F) :
    Option (QueueItem F W) :=
  l.items.find? fun item => item.fingerprint = fingerprint

/-- The list without one of its incidents. -/
def without (l : PriorityList F W) (fingerprint : F) : List (QueueItem F W) :=
  l.items.filter fun item => item.fingerprint ≠ fingerprint

/-- A pending incident keeps its arrival number and takes the better of the two
priorities.  A new one on a full list takes the place of the last element when
its priority is strictly better. -/
def enqueue (cfg : QueueSettings) (l : PriorityList F W) (fingerprint : F)
    (severity : String) (payload : W) :
    EnqueueResult F × PriorityList F W :=
  let priority := priorityForSeverity severity
  let item : QueueItem F W := ⟨priority, l.arrivals, fingerprint, payload⟩
  if fingerprint ∈ l.inFlight then (l.result .inFlight none, l)
  else
    match l.pending? fingerprint with
    | some existing =>
        let replacement : QueueItem F W :=
          ⟨min priority existing.priority, existing.sequence, fingerprint,
            payload⟩
        let l' := { l with
          items := (l.without fingerprint).orderedInsert QueueItem.Before
            replacement }
        (l'.result .coalesced none, l')
    | none =>
        if l.items.length < cfg.maxPending then
          let l' := { l with
            items := l.items.orderedInsert QueueItem.Before item
            arrivals := l.arrivals + 1 }
          (l'.result .enqueued none, l')
        else
          match l.items.getLast? with
          | none => (l.result .rejectedFull none, l)
          | some last =>
              if priority < last.priority then
                let l' := { l with
                  items := l.items.dropLast.orderedInsert QueueItem.Before item
                  arrivals := l.arrivals + 1 }
                (l'.result .enqueued (some last.fingerprint), l')
              else (l.result .rejectedFull none, l)

def cancel (l : PriorityList F W) (fingerprint : F) :
    CancelStatus × PriorityList F W :=
  if (l.pending? fingerprint).isSome then
    (.cancelled, { l with items := l.without fingerprint })
  else if fingerprint ∈ l.inFlight then (.inFlight, l)
  else (.notFound, l)

/-- The first element is taken out and marked as in flight. -/
def pop (l : PriorityList F W) : Option (QueueItem F W) × PriorityList F W :=
  match l.items with
  | [] => (none, l)
  | item :: rest =>
      (some item,
        ⟨rest, insert item.fingerprint l.inFlight, l.arrivals⟩)

end PriorityList

/-! ## Operations and answers -/

inductive QueueOp (F W : Type)
  | enqueue (fingerprint : F) (severity : String) (payload : W)
  | cancel (fingerprint : F)
  | pop
  /-- A worker counts the end of its handler. -/
  | handled (returned : Bool)
  /-- A worker clears the mark of its incident. -/
  | release (fingerprint : F)

inductive QueueAnswer (F W : Type)
  | enqueued (result : EnqueueResult F)
  | cancelled (status : CancelStatus)
  | popped (item? : Option (QueueItem F W))
  | done

variable [DecidableEq F]

def InvestigationQueue.perform (cfg : QueueSettings)
    (q : InvestigationQueue F W) :
    QueueOp F W → QueueAnswer F W × InvestigationQueue F W
  | .enqueue fingerprint severity payload =>
      let (result, q') := q.enqueue cfg fingerprint severity payload
      (.enqueued result, q')
  | .cancel fingerprint =>
      let (status, q') := q.cancel fingerprint
      (.cancelled status, q')
  | .pop =>
      match q.next with
      | none => (.popped none, q)
      | some (item, q') => (.popped (some item), q')
  | .handled returned => (.done, q.recordHandled returned)
  | .release fingerprint => (.done, q.release fingerprint)

def PriorityList.perform (cfg : QueueSettings) (l : PriorityList F W) :
    QueueOp F W → QueueAnswer F W × PriorityList F W
  | .enqueue fingerprint severity payload =>
      let (result, l') := l.enqueue cfg fingerprint severity payload
      (.enqueued result, l')
  | .cancel fingerprint =>
      let (status, l') := l.cancel fingerprint
      (.cancelled status, l')
  | .pop =>
      let (item?, l') := l.pop
      (.popped item?, l')
  | .handled _ => (.done, l)
  | .release fingerprint =>
      (.done, { l with inFlight := l.inFlight.erase fingerprint })

/-! ## The queue shows the list -/

/-- The heap holds the items of the list. -/
structure Shows (q : InvestigationQueue F W) (l : PriorityList F W) :
    Prop where
  items : l.items.Perm q.heap
  sorted : l.items.Pairwise QueueItem.Before
  inFlight : l.inFlight = q.inFlight
  arrivals : l.arrivals = q.sequence

/-- An open queue and the list it implements. -/
structure Implements (cfg : QueueSettings) (q : InvestigationQueue F W)
    (l : PriorityList F W) : Prop where
  consistent : q.Consistent
  heap : HeapValid cfg q.heap
  accepting : q.accepting = true
  shown : Shows q l

section Shown

variable {cfg : QueueSettings} {q : InvestigationQueue F W}
  {l : PriorityList F W} {fingerprint : F} {existing : QueueItem F W}

omit [DecidableEq F] in
theorem Shows.result_eq (h : Shows q l) (status : EnqueueStatus)
    (evicted : Option F) :
    q.result status evicted = l.result status evicted := by
  rw [InvestigationQueue.result, PriorityList.result, h.items.length_eq,
    h.inFlight]

/-- The list and `_pending` agree on what is pending. -/
theorem Shows.pending?_eq (h : Shows q l) (hq : q.Consistent)
    (fingerprint : F) : l.pending? fingerprint = q.pending.get? fingerprint := by
  rcases hget : q.pending.get? fingerprint with _ | item
  · rw [PriorityList.pending?, List.find?_eq_none]
    intro item hitem hkey
    have hpending := (hq.mem_heap_iff item).mp (h.items.mem_iff.mp hitem)
    rw [of_decide_eq_true hkey, hget] at hpending
    cases hpending
  · have hkey := hq.pending_key fingerprint item hget
    have hmem : item ∈ l.items :=
      h.items.mem_iff.mpr ((hq.mem_heap_iff item).mpr (hkey ▸ hget))
    rcases hfind : l.pending? fingerprint with _ | other
    · have hnot := List.find?_eq_none.mp hfind item hmem
      exact absurd (decide_eq_true hkey) hnot
    · have hother : other.fingerprint = fingerprint := by
        rw [PriorityList.pending?] at hfind
        simpa using List.find?_some hfind
      have hpending := (hq.mem_heap_iff other).mp
        (h.items.mem_iff.mp (List.mem_of_find?_eq_some hfind))
      rw [hother, hget] at hpending
      exact hpending.symm

/-- Without one of its incidents the list has the items that the heap keeps. -/
theorem Shows.without_perm (h : Shows q l) (hq : q.Consistent)
    (hexisting : q.pending.get? fingerprint = some existing) :
    (l.without fingerprint).Perm (Heapq.heapify QueueItem.lt
      (InvestigationQueue.removeFromHeap q.heap existing)) := by
  have hkey := hq.pending_key fingerprint existing hexisting
  subst hkey
  have hperm := InvestigationQueue.heapify_removeFromHeap_perm hq hexisting
  have hremoved := Agree.remove hq hperm
  have hsplit := (h.items.trans hperm).filter
    fun item => decide (item.fingerprint ≠ existing.fingerprint)
  have hkept : (Heapq.heapify QueueItem.lt
      (InvestigationQueue.removeFromHeap q.heap existing)).filter
        (fun item => decide (item.fingerprint ≠ existing.fingerprint)) =
      Heapq.heapify QueueItem.lt
        (InvestigationQueue.removeFromHeap q.heap existing) := by
    apply List.filter_eq_self.mpr
    intro item hitem
    have hpending := (hremoved.mem_heap_iff item).mp hitem
    simp only [decide_eq_true_eq]
    intro hsame
    rw [if_pos hsame] at hpending
    cases hpending
  rw [List.filter_cons_of_neg (by simp), hkept] at hsplit
  exact hsplit

theorem Shows.without_sorted (h : Shows q l) (fingerprint : F) :
    (l.without fingerprint).Pairwise QueueItem.Before :=
  h.sorted.filter _

omit [DecidableEq F] in
/-- The list with a new item has the items of the heap it is pushed onto. -/
theorem orderedInsert_perm_heapPush {items heap : List (QueueItem F W)}
    (hperm : items.Perm heap) (item : QueueItem F W) :
    (items.orderedInsert QueueItem.Before item).Perm
      (Heapq.heapPush QueueItem.lt heap item) :=
  ((List.perm_orderedInsert _ item items).trans (hperm.cons item)).trans
    (Heapq.heapPush_perm QueueItem.lt heap item).symm

theorem Shows.coalesce (h : Shows q l) (hq : q.Consistent)
    (hexisting : q.pending.get? fingerprint = some existing) (priority : ℕ)
    (payload : W) :
    Shows (q.coalesce existing priority fingerprint payload).2
      { l with
        items := (l.without fingerprint).orderedInsert QueueItem.Before
          ⟨min priority existing.priority, existing.sequence, fingerprint,
            payload⟩ } where
  items := orderedInsert_perm_heapPush (h.without_perm hq hexisting) _
  sorted := (h.without_sorted fingerprint).orderedInsert _ _
  inFlight := h.inFlight
  arrivals := h.arrivals

theorem Shows.append (h : Shows q l) (priority : ℕ) (fingerprint : F)
    (payload : W) (evicted : Option F) :
    Shows (q.append priority fingerprint payload evicted).2
      { l with
        items := l.items.orderedInsert QueueItem.Before
          ⟨priority, l.arrivals, fingerprint, payload⟩
        arrivals := l.arrivals + 1 } where
  items := by
    rw [h.arrivals]
    exact orderedInsert_perm_heapPush h.items _
  sorted := h.sorted.orderedInsert _ _
  inFlight := h.inFlight
  arrivals := congrArg (· + 1) h.arrivals

/-! ### The last element -/

omit [DecidableEq F] in
/-- The worst item comes after every item of the heap. -/
theorem before_of_worst? {heap : List (QueueItem F W)}
    {worst : QueueItem F W}
    (hworst : InvestigationQueue.worst? heap = some worst) :
    ∀ item ∈ heap, item.Before worst := by
  induction heap generalizing worst with
  | nil => cases hworst
  | cons first rest ih =>
      rw [InvestigationQueue.worst?] at hworst
      intro item hitem
      rcases hrest : InvestigationQueue.worst? rest with _ | other
      · simp only [hrest, Option.some.injEq] at hworst
        rcases List.mem_cons.mp hitem with rfl | hitem
        · rw [hworst]
          exact (total_of QueueItem.Before worst worst).elim id id
        · have hpos := List.length_pos_of_mem hitem
          exact absurd hrest (InvestigationQueue.worst?_isSome hpos)
      · have hother := ih hrest
        simp only [hrest] at hworst
        split at hworst
        next hlt =>
          obtain rfl := Option.some.inj hworst
          rcases List.mem_cons.mp hitem with rfl | hitem
          · exact QueueItem.lt_eq_false_iff.mp
              (QueueItem.weakOrder.asymm _ _ hlt)
          · exact hother item hitem
        next hlt =>
          obtain rfl := Option.some.inj hworst
          have hlast : other.Before first :=
            QueueItem.lt_eq_false_iff.mp (Bool.eq_false_iff.mpr hlt)
          rcases List.mem_cons.mp hitem with rfl | hitem
          · exact (total_of QueueItem.Before item item).elim id id
          · exact trans_of QueueItem.Before (hother item hitem) hlast

omit [DecidableEq F] in
theorem before_getLast {items : List (QueueItem F W)}
    (hsorted : items.Pairwise QueueItem.Before) {last : QueueItem F W}
    (hlast : items.getLast? = some last) :
    ∀ item ∈ items, item.Before last := by
  obtain ⟨front, rfl⟩ := List.getLast?_eq_some_iff.mp hlast
  intro item hitem
  rcases List.mem_append.mp hitem with hitem | hitem
  · exact (List.pairwise_append.mp hsorted).2.2 item hitem last (by simp)
  · rw [List.mem_singleton.mp hitem]
    exact (total_of QueueItem.Before last last).elim id id

omit [DecidableEq F] in
/-- The item that makes room is the last one of the list. -/
theorem Shows.getLast?_eq (h : Shows q l)
    (hnodup : (q.heap.map QueueItem.sequence).Nodup) :
    l.items.getLast? = InvestigationQueue.worst? q.heap := by
  rcases hlast : l.items.getLast? with _ | last
  · have hempty : q.heap = [] := by
      rw [List.getLast?_eq_none_iff] at hlast
      exact List.perm_nil.mp (hlast ▸ h.items.symm)
    rw [hempty]
    rfl
  · have hmem : last ∈ q.heap :=
      h.items.mem_iff.mp (List.mem_of_getLast? hlast)
    rcases hworst : InvestigationQueue.worst? q.heap with _ | worst
    · have hpos := List.length_pos_of_mem hmem
      exact absurd hworst (InvestigationQueue.worst?_isSome hpos)
    · have hworstMem := InvestigationQueue.mem_of_worst? hworst
      have hafter := before_of_worst? hworst last hmem
      have hbefore := before_getLast h.sorted hlast worst
        (h.items.mem_iff.mpr hworstMem)
      have hsequence : last.sequence = worst.sequence := by
        simp only [QueueItem.Before] at hafter hbefore
        omega
      rw [List.inj_on_of_nodup_map hnodup hmem hworstMem hsequence]

/-- Without its last element the list has the items that an eviction keeps. -/
theorem Shows.evict (h : Shows q l) (hq : q.Consistent)
    {last : QueueItem F W} (hlast : l.items.getLast? = some last) :
    Shows (q.evict last) { l with items := l.items.dropLast } where
  items := by
    have hmem : last ∈ q.heap :=
      h.items.mem_iff.mp (List.mem_of_getLast? hlast)
    have hremoved := InvestigationQueue.heapify_removeFromHeap_perm hq
      ((hq.mem_heap_iff last).mp hmem)
    have hsplit := h.items.trans hremoved
    rw [← List.dropLast_append_getLast? last hlast] at hsplit
    exact (List.perm_cons last).mp
      ((List.perm_append_singleton last l.items.dropLast).symm.trans hsplit)
  sorted := h.sorted.sublist (List.dropLast_sublist l.items)
  inFlight := h.inFlight
  arrivals := h.arrivals

/-! ### The operations -/

/-- The queue answers and changes like the list. -/
theorem Implements.enqueue (h : Implements cfg q l) (fingerprint : F)
    (severity : String) (payload : W) :
    (q.enqueue cfg fingerprint severity payload).1 =
        (l.enqueue cfg fingerprint severity payload).1 ∧
      Shows (q.enqueue cfg fingerprint severity payload).2
        (l.enqueue cfg fingerprint severity payload).2 := by
  have hq := h.consistent
  have hshown := h.shown
  have hpending := hshown.pending?_eq hq fingerprint
  have hlast := hshown.getLast?_eq hq.sequence_nodup
  have hlength := hshown.items.length_eq
  have hopen : ¬q.accepting = false := by simp [h.accepting]
  simp only [InvestigationQueue.enqueue, PriorityList.enqueue]
  rw [if_neg hopen]
  have hmark : fingerprint ∈ l.inFlight ↔ fingerprint ∈ q.inFlight := by
    rw [hshown.inFlight]
  by_cases hin : fingerprint ∈ q.inFlight
  · rw [if_pos hin, if_pos (hmark.mpr hin)]
    exact ⟨hshown.result_eq _ _, hshown⟩
  rw [if_neg hin, if_neg (mt hmark.mp hin)]
  rcases hexisting : q.pending.get? fingerprint with _ | existing
  · rw [hexisting] at hpending
    simp only [hpending]
    by_cases hroom : q.heap.length < cfg.maxPending
    · have hnext := hshown.append (priorityForSeverity severity) fingerprint
        payload none
      rw [if_pos hroom, if_pos (by omega)]
      exact ⟨hnext.result_eq _ _, hnext⟩
    rw [if_neg hroom, if_neg (by omega)]
    rcases hworst : InvestigationQueue.worst? q.heap with _ | worst
    · have hone := cfg.one_le_maxPending
      exact absurd hworst (InvestigationQueue.worst?_isSome (by omega))
    rw [hworst] at hlast
    simp only [hlast]
    by_cases hbetter : priorityForSeverity severity < worst.priority
    · have hnext := (hshown.evict hq hlast).append
        (priorityForSeverity severity) fingerprint payload
        (some worst.fingerprint)
      rw [if_neg (by omega), if_pos hbetter]
      exact ⟨hnext.result_eq _ _, hnext⟩
    · have hnext : Shows { q with rejected := q.rejected + 1 } l :=
        ⟨hshown.items, hshown.sorted, hshown.inFlight, hshown.arrivals⟩
      rw [if_pos (by omega), if_neg hbetter]
      exact ⟨hnext.result_eq _ _, hnext⟩
  · have hnext := hshown.coalesce hq hexisting (priorityForSeverity severity)
      payload
    rw [hexisting] at hpending
    simp only [hpending]
    exact ⟨hnext.result_eq _ _, hnext⟩

theorem Implements.cancel (h : Implements cfg q l) (fingerprint : F) :
    (q.cancel fingerprint).1 = (l.cancel fingerprint).1 ∧
      Shows (q.cancel fingerprint).2 (l.cancel fingerprint).2 := by
  have hq := h.consistent
  have hshown := h.shown
  have hpending := hshown.pending?_eq hq fingerprint
  rw [InvestigationQueue.cancel, PriorityList.cancel]
  rcases hexisting : q.pending.get? fingerprint with _ | existing
  · rw [hexisting] at hpending
    simp only [hpending, Option.isSome_none, Bool.false_eq_true, if_false,
      hshown.inFlight]
    by_cases hin : fingerprint ∈ q.inFlight
    · rw [if_pos hin, if_pos hin]
      exact ⟨rfl, hshown⟩
    · rw [if_neg hin, if_neg hin]
      exact ⟨rfl, hshown⟩
  · rw [hexisting] at hpending
    simp only [hpending, Option.isSome_some, if_true]
    exact ⟨trivial, hshown.without_perm hq hexisting,
      hshown.without_sorted fingerprint, hshown.inFlight, hshown.arrivals⟩

/-- A pop takes out the first element. -/
theorem Implements.next (h : Implements cfg q l) :
    match q.next with
    | none => l.items = []
    | some (item, q') => ∃ rest, l.items = item :: rest ∧
        Shows q' ⟨rest, insert item.fingerprint l.inFlight, l.arrivals⟩ := by
  have hshown := h.shown
  rw [InvestigationQueue.next]
  rcases hpop : Heapq.heapPop QueueItem.lt q.heap with _ | ⟨item, heap⟩
  · have hempty := Heapq.heapPop_eq_none hpop
    exact List.perm_nil.mp (hempty ▸ hshown.items)
  · have hsplit := hshown.items.trans (Heapq.heapPop_perm hpop)
    have hminimal :=
      Heapq.heapPop_minimal QueueItem.weakOrder h.heap.ordered hpop
    rcases hitems : l.items with _ | ⟨first, rest⟩
    · have hlength := hsplit.length_eq
      simp [hitems] at hlength
    · have hsorted := hitems ▸ hshown.sorted
      have hfirst : first ∈ q.heap :=
        hshown.items.mem_iff.mp (hitems ▸ List.mem_cons_self)
      have hitem : item ∈ l.items := hsplit.mem_iff.mpr List.mem_cons_self
      have hbefore : item.Before first :=
        QueueItem.lt_eq_false_iff.mp (hminimal first hfirst)
      obtain rfl : first = item := by
        have hafter : first.Before item := by
          rcases List.mem_cons.mp (hitems ▸ hitem) with rfl | hrest
          · exact hbefore
          · exact (List.pairwise_cons.mp hsorted).1 item hrest
        apply List.inj_on_of_nodup_map h.consistent.sequence_nodup hfirst
          (hshown.items.mem_iff.mp hitem)
        simp only [QueueItem.Before] at hbefore hafter
        omega
      refine ⟨rest, rfl, ?_, (List.pairwise_cons.mp hsorted).2, ?_,
        hshown.arrivals⟩
      · exact (List.perm_cons first).mp (hitems ▸ hsplit)
      · exact congrArg (Insert.insert first.fingerprint) hshown.inFlight

/-! ### The refinement -/

theorem implements_initial :
    Implements cfg (.initial : InvestigationQueue F W) .initial where
  consistent := Agree.initial
  heap := ⟨Heapq.isHeap_nil, Nat.zero_le _⟩
  accepting := rfl
  shown := ⟨List.Perm.refl _, List.Pairwise.nil, rfl, rfl⟩

/-- One operation on the queue and on the list. -/
theorem Implements.perform (h : Implements cfg q l) (op : QueueOp F W) :
    (q.perform cfg op).1 = (l.perform cfg op).1 ∧
      Implements cfg (q.perform cfg op).2 (l.perform cfg op).2 := by
  rcases op with ⟨fingerprint, severity, payload⟩ | fingerprint | _ |
    returned | fingerprint
  case enqueue =>
    obtain ⟨hanswer, hshown⟩ := h.enqueue fingerprint severity payload
    refine ⟨congrArg QueueAnswer.enqueued hanswer, h.consistent.enqueue,
      InvestigationQueue.heapValid_enqueue h.consistent h.heap, ?_, hshown⟩
    exact (congrArg Prod.fst InvestigationQueue.flags_enqueue).trans h.accepting
  case cancel =>
    obtain ⟨hanswer, hshown⟩ := h.cancel fingerprint
    exact ⟨congrArg QueueAnswer.cancelled hanswer, h.consistent.cancel,
      InvestigationQueue.heapValid_cancel h.consistent h.heap,
      (congrArg Prod.fst InvestigationQueue.flags_cancel).trans h.accepting,
      hshown⟩
  case pop =>
    have hnext := h.next
    simp only [InvestigationQueue.perform, PriorityList.perform,
      PriorityList.pop]
    rcases hpopped : q.next with _ | ⟨item, q'⟩
    · rw [hpopped] at hnext
      simp only [hnext]
      exact ⟨trivial, h⟩
    · rw [hpopped] at hnext
      obtain ⟨rest, hitems, hshown⟩ := hnext
      simp only [hitems]
      refine ⟨trivial, (h.consistent.next hpopped).1,
        InvestigationQueue.heapValid_next h.heap hpopped, ?_, hshown⟩
      exact (congrArg Prod.fst
        (InvestigationQueue.flags_next hpopped)).trans h.accepting
  case handled =>
    have hshown := h.shown
    rcases returned with _ | _
    · exact ⟨rfl, h.consistent, h.heap, h.accepting, hshown.items,
        hshown.sorted, hshown.inFlight, hshown.arrivals⟩
    · exact ⟨rfl, h.consistent, h.heap, h.accepting, hshown.items,
        hshown.sorted, hshown.inFlight, hshown.arrivals⟩
  case release =>
    have hshown := h.shown
    exact ⟨rfl, h.consistent.release, h.heap, h.accepting, hshown.items,
      hshown.sorted, congrArg (Finset.erase · fingerprint) hshown.inFlight,
      hshown.arrivals⟩

theorem implements_stateAfter (h : Implements cfg q l)
    (ops : List (QueueOp F W)) :
    Implements cfg (stateAfter (InvestigationQueue.perform cfg) q ops)
      (stateAfter (PriorityList.perform cfg) l ops) :=
  stateAfter_related (R := Implements cfg) (fun _ _ op h => (h.perform op).2)
    h ops

theorem Implements.outputs_eq (h : Implements cfg q l)
    (ops : List (QueueOp F W)) :
    outputs (InvestigationQueue.perform cfg) q ops =
      outputs (PriorityList.perform cfg) l ops :=
  outputs_eq_of_simulation (R := Implements cfg)
    (fun _ _ op h => h.perform op) h ops

end Shown

/-! ## Draining a batch -/

structure Request (F W : Type) where
  fingerprint : F
  severity : String
  payload : W

omit [DecidableEq F]

def Request.op (request : Request F W) : QueueOp F W :=
  .enqueue request.fingerprint request.severity request.payload

/-- `request` is at least as urgent as `other`. -/
def Request.Urgent (request other : Request F W) : Prop :=
  priorityForSeverity request.severity ≤ priorityForSeverity other.severity

instance : DecidableRel (@Request.Urgent F W) :=
  fun request other => Nat.decLe (priorityForSeverity request.severity)
    (priorityForSeverity other.severity)

instance : Std.Total (@Request.Urgent F W) where
  total request other := Nat.le_total (priorityForSeverity request.severity)
    (priorityForSeverity other.severity)

instance : IsTrans (Request F W) Request.Urgent where
  trans _ _ _ := Nat.le_trans

/-- What a pop hands out of a request, its arrival number aside. -/
def Request.job (request : Request F W) : ℕ × F × W :=
  (priorityForSeverity request.severity, request.fingerprint, request.payload)

def QueueItem.job (item : QueueItem F W) : ℕ × F × W :=
  (item.priority, item.fingerprint, item.payload)

def QueueAnswer.popped? : QueueAnswer F W → Option (QueueItem F W)
  | .popped item? => item?
  | .enqueued _ => none
  | .cancelled _ => none
  | .done => none

def QueueOp.isPop : QueueOp F W → Bool
  | .pop => true
  | _ => false

/-- The steps of the workers. -/
def QueueOp.isWorkerStep : QueueOp F W → Bool
  | .enqueue _ _ _ => false
  | .cancel _ => false
  | .pop => true
  | .handled _ => true
  | .release _ => true

/-- Jobs in the order of their priorities. -/
def JobBefore (job other : ℕ × F × W) : Prop := job.1 ≤ other.1

instance : DecidableRel (@JobBefore F W) :=
  fun job other => Nat.decLe job.1 other.1

namespace PriorityList

variable [DecidableEq F] {cfg : QueueSettings} {l : PriorityList F W}

/-- A new incident is inserted by its priority alone, since it is the last to
arrive. -/
theorem items_enqueue {fingerprint : F} (severity : String) (payload : W)
    (hfree : fingerprint ∉ l.inFlight)
    (hnew : l.pending? fingerprint = none)
    (hsequence : ∀ item ∈ l.items, item.sequence < l.arrivals) :
    (l.enqueue cfg fingerprint severity payload).2.items =
      boundedInsert (fun item other => item.priority ≤ other.priority)
        cfg.maxPending
        ⟨priorityForSeverity severity, l.arrivals, fingerprint, payload⟩
        l.items := by
  have hinsert (items : List (QueueItem F W)) (hitems : items ⊆ l.items) :
      items.orderedInsert QueueItem.Before
          ⟨priorityForSeverity severity, l.arrivals, fingerprint, payload⟩ =
        insertAfter (fun item other => item.priority ≤ other.priority)
          ⟨priorityForSeverity severity, l.arrivals, fingerprint, payload⟩
          items := by
    apply orderedInsert_eq_insertAfter
    intro item hitem
    have hlt := hsequence item (hitems hitem)
    simp only [QueueItem.Before]
    omega
  simp only [enqueue, boundedInsert, hnew]
  rw [if_neg hfree]
  split
  · exact hinsert l.items (List.Subset.refl _)
  · rcases hlast : l.items.getLast? with _ | last
    · rfl
    · dsimp only
      by_cases hbetter : priorityForSeverity severity < last.priority
      · rw [if_pos hbetter, if_neg (by omega)]
        exact hinsert _ (List.dropLast_subset l.items)
      · rw [if_neg hbetter, if_pos (by omega)]

theorem inFlight_enqueue (fingerprint : F) (severity : String) (payload : W) :
    (l.enqueue cfg fingerprint severity payload).2.inFlight = l.inFlight := by
  simp only [enqueue]
  split
  · rfl
  split
  · rfl
  split
  · rfl
  split
  · rfl
  split
  · rfl
  · rfl

/-- Every item keeps an arrival number of the past. -/
theorem sequence_lt_enqueue (fingerprint : F) (severity : String) (payload : W)
    (hsequence : ∀ item ∈ l.items, item.sequence < l.arrivals) :
    ∀ item ∈ (l.enqueue cfg fingerprint severity payload).2.items,
      item.sequence <
        (l.enqueue cfg fingerprint severity payload).2.arrivals := by
  have hinsert (items : List (QueueItem F W)) (hitems : items ⊆ l.items)
      (new : QueueItem F W) (bound : ℕ) (hbound : l.arrivals ≤ bound)
      (hnew : new.sequence < bound) :
      ∀ item ∈ items.orderedInsert QueueItem.Before new,
        item.sequence < bound := by
    intro item hitem
    rcases (List.mem_orderedInsert _).mp hitem with rfl | hitem
    · exact hnew
    · exact (hsequence item (hitems hitem)).trans_le hbound
  simp only [enqueue]
  split
  · exact hsequence
  split
  next existing hexisting =>
    exact hinsert _ (List.filter_subset_self _) _ _ le_rfl
      (hsequence existing (List.mem_of_find?_eq_some hexisting))
  split
  · exact hinsert _ (List.Subset.refl _) _ _ (Nat.le_succ _)
      (Nat.lt_succ_self _)
  split
  · exact hsequence
  split
  · exact hinsert _ (List.dropLast_subset _) _ _ (Nat.le_succ _)
      (Nat.lt_succ_self _)
  · exact hsequence

/-- The list holds the most urgent requests of a batch. -/
structure Holds (cfg : QueueSettings) (l : PriorityList F W)
    (inFlight : Finset F) (batch : List (Request F W)) : Prop where
  jobs : l.items.map QueueItem.job =
    ((batch.insertionSort Request.Urgent).take cfg.maxPending).map Request.job
  sequence_lt : ∀ item ∈ l.items, item.sequence < l.arrivals
  inFlight : l.inFlight = inFlight

variable {inFlight : Finset F} {batch : List (Request F W)}

theorem Holds.pending?_eq_none (h : Holds cfg l inFlight batch)
    {fingerprint : F} (hnew : fingerprint ∉ batch.map Request.fingerprint) :
    l.pending? fingerprint = none := by
  rw [pending?, List.find?_eq_none]
  intro item hitem hkey
  have hjob : item.job ∈ l.items.map QueueItem.job := List.mem_map_of_mem hitem
  rw [h.jobs] at hjob
  obtain ⟨request, hrequest, heq⟩ := List.mem_map.mp hjob
  have hmem : request ∈ batch :=
    (List.mem_insertionSort _).mp (List.mem_of_mem_take hrequest)
  apply hnew
  rw [← of_decide_eq_true hkey]
  obtain ⟨-, hsame, -⟩ := Prod.mk.inj heq |>.imp_right Prod.mk.inj
  exact hsame ▸ List.mem_map_of_mem hmem

/-- One more request of the batch. -/
theorem Holds.enqueue (h : Holds cfg l inFlight batch) (request : Request F W)
    (hfree : request.fingerprint ∉ inFlight)
    (hnew : request.fingerprint ∉ batch.map Request.fingerprint) :
    Holds cfg (l.perform cfg request.op).2 inFlight (batch ++ [request]) where
  jobs := by
    have hitems : (l.enqueue cfg request.fingerprint request.severity
        request.payload).2.items = _ :=
      items_enqueue request.severity request.payload (h.inFlight ▸ hfree)
        (h.pending?_eq_none hnew) h.sequence_lt
    calc
      (l.perform cfg request.op).2.items.map QueueItem.job =
          boundedInsert JobBefore cfg.maxPending request.job
            (l.items.map QueueItem.job) := by
        rw [Request.op, PriorityList.perform]
        dsimp only
        rw [hitems]
        exact map_boundedInsert _ fun _ _ => Iff.rfl
      _ = (boundedInsert Request.Urgent cfg.maxPending request
            ((batch.insertionSort Request.Urgent).take cfg.maxPending)).map
              Request.job := by
        rw [h.jobs]
        exact (map_boundedInsert _ fun _ _ => Iff.rfl).symm
      _ = (((batch ++ [request]).insertionSort Request.Urgent).take
            cfg.maxPending).map Request.job := by
        rw [take_insertionSort_concat]
  sequence_lt := sequence_lt_enqueue _ _ _ h.sequence_lt
  inFlight := (inFlight_enqueue _ _ _).trans h.inFlight

theorem holds_stateAfter (hempty : l.items = [])
    (hfree : ∀ request ∈ batch, request.fingerprint ∉ l.inFlight)
    (hnodup : (batch.map Request.fingerprint).Nodup) :
    Holds cfg (stateAfter (perform cfg) l (batch.map Request.op)) l.inFlight
      batch := by
  induction batch using List.reverseRecOn with
  | nil =>
      refine ⟨?_, ?_, rfl⟩
      · simp [stateAfter, hempty]
      · simp [stateAfter, hempty]
  | append_singleton batch request ih =>
      rw [List.map_append, List.nodup_append] at hnodup
      obtain ⟨hbatch, -, hdisjoint⟩ := hnodup
      have hheld := ih (fun other hother => hfree other (by simp [hother]))
        hbatch
      rw [List.map_append, List.map_singleton, stateAfter_concat]
      apply hheld.enqueue request (hfree request (by simp))
      intro hmem
      exact hdisjoint _ hmem request.fingerprint (by simp) rfl

/-- The workers take the first elements, one at each pop. -/
theorem popped_of_workerSteps {drain : List (QueueOp F W)}
    (hdrain : ∀ op ∈ drain, op.isWorkerStep = true) :
    (outputs (perform cfg) l drain).filterMap QueueAnswer.popped? =
      l.items.take (drain.countP QueueOp.isPop) := by
  induction drain generalizing l with
  | nil => rfl
  | cons op drain ih =>
      have hrest := fun l' : PriorityList F W => ih (l := l')
        fun other hother => hdrain other (List.mem_cons_of_mem op hother)
      have hop := hdrain op List.mem_cons_self
      rcases op with ⟨fingerprint, severity, payload⟩ | fingerprint | _ |
        returned | fingerprint
      case enqueue => cases hop
      case cancel => cases hop
      case pop =>
        rw [outputs, List.countP_cons_of_pos rfl]
        rcases hitems : l.items with _ | ⟨first, rest⟩
        · have hnext : l.perform cfg .pop = (.popped none, l) := by
            simp [perform, pop, hitems]
          rw [hnext, List.filterMap_cons_none rfl, hrest, hitems,
            List.take_nil, List.take_nil]
        · have hnext : l.perform cfg .pop = (.popped (some first),
              ⟨rest, insert first.fingerprint l.inFlight, l.arrivals⟩) := by
            simp [perform, pop, hitems]
          rw [hnext, List.filterMap_cons_some (f := QueueAnswer.popped?)
            (b := first) rfl, hrest, List.take_succ_cons]
      case handled =>
        rw [outputs, List.countP_cons_of_neg Bool.false_ne_true,
          List.filterMap_cons_none rfl, hrest]
        rfl
      case release =>
        rw [outputs, List.countP_cons_of_neg Bool.false_ne_true,
          List.filterMap_cons_none rfl, hrest]
        rfl

/-- Enough pops take the whole batch. -/
theorem Holds.drained {drain : List (QueueOp F W)}
    (h : Holds cfg l inFlight batch)
    (hdrain : ∀ op ∈ drain, op.isWorkerStep = true)
    (hpops : batch.length ≤ drain.countP QueueOp.isPop) :
    ((outputs (perform cfg) l drain).filterMap QueueAnswer.popped?).map
        QueueItem.job =
      ((batch.insertionSort Request.Urgent).take cfg.maxPending).map
        Request.job := by
  have hlength := congrArg List.length h.jobs
  rw [List.length_map, List.length_map] at hlength
  have hle := List.length_take_le' cfg.maxPending
    (batch.insertionSort Request.Urgent)
  rw [List.length_insertionSort] at hle
  rw [popped_of_workerSteps hdrain, List.take_of_length_le (by omega), h.jobs]

end PriorityList

/-! ## The queue is a bounded stable priority list -/

variable [DecidableEq F]

/-- An open queue answers like the sorted list, and the workers take from an
empty one the most urgent requests of a batch, in the order of their stable
sort. -/
theorem bounded_stable_priority_list (cfg : QueueSettings)
    (ops : List (QueueOp F W)) :
    outputs (InvestigationQueue.perform cfg) .initial ops =
        outputs (PriorityList.perform cfg) .initial ops ∧
      (stateAfter (PriorityList.perform cfg) (.initial : PriorityList F W)
        ops).items.Pairwise QueueItem.Before ∧
      ∀ (batch : List (Request F W)) (drain : List (QueueOp F W)),
        let q := stateAfter (InvestigationQueue.perform cfg) .initial ops
        q.heap = [] →
        (∀ request ∈ batch, request.fingerprint ∉ q.inFlight) →
        (batch.map Request.fingerprint).Nodup →
        (∀ op ∈ drain, op.isWorkerStep = true) →
        batch.length ≤ drain.countP QueueOp.isPop →
        ((outputs (InvestigationQueue.perform cfg)
          (stateAfter (InvestigationQueue.perform cfg) q
            (batch.map Request.op)) drain).filterMap
              QueueAnswer.popped?).map QueueItem.job =
          ((batch.insertionSort Request.Urgent).take cfg.maxPending).map
            Request.job := by
  have hstate : Implements cfg _ _ :=
    implements_stateAfter (implements_initial (F := F) (W := W)) ops
  refine ⟨implements_initial.outputs_eq ops, hstate.shown.sorted, ?_⟩
  intro batch drain q hempty hfree hnodup hdrain hpops
  have hitems := List.perm_nil.mp (hempty ▸ hstate.shown.items)
  rw [(implements_stateAfter hstate (batch.map Request.op)).outputs_eq drain]
  exact (PriorityList.holds_stateAfter hitems
    (hstate.shown.inFlight ▸ hfree) hnodup).drained hdrain hpops

theorem bounded_stable_priority_list_three_requests :
    let cfg : QueueSettings := ⟨2, 1, by decide, by decide⟩
    let ops : List (QueueOp ℕ ℕ) :=
      [.enqueue 7 "warning" 0, .pop, .handled true, .release 7]
    let batch : List (Request ℕ ℕ) :=
      [⟨1, "info", 10⟩, ⟨2, "warning", 20⟩, ⟨3, "warning", 30⟩]
    ((outputs (InvestigationQueue.perform cfg)
      (stateAfter (InvestigationQueue.perform cfg)
        (stateAfter (InvestigationQueue.perform cfg) .initial ops)
          (batch.map Request.op)) [.pop, .pop, .pop]).filterMap
            QueueAnswer.popped?).map QueueItem.job =
      [(1, 2, 20), (1, 3, 30)] :=
  (bounded_stable_priority_list ⟨2, 1, by decide, by decide⟩
    [.enqueue 7 "warning" 0, .pop, .handled true, .release 7]).2.2
    [⟨1, "info", 10⟩, ⟨2, "warning", 20⟩, ⟨3, "warning", 30⟩]
    [.pop, .pop, .pop] (by decide) (by decide) (by decide) (by decide)
    (by decide)

end UyuniAgent.Queue
