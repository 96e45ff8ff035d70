import UyuniAgent.Queue.InvestigationQueue

/-!
# The queue's three records of an incident agree

An incident is pending in the heap exactly when `_pending` holds its item, and
never both pending and in flight.  Every operation is a removal from the heap,
an insertion into it, or both, and the two keep the agreement.
-/

namespace UyuniAgent.Queue

variable {F W : Type}

/-- The heap, the lookup in `_pending`, the in-flight set and the next
sequence number agree. -/
structure Agree (heap : List (QueueItem F W))
    (pending : F → Option (QueueItem F W)) (inFlight : Finset F)
    (sequence : ℕ) : Prop where
  mem_heap_iff : ∀ item, item ∈ heap ↔ pending item.fingerprint = some item
  pending_key : ∀ f item, pending f = some item → item.fingerprint = f
  sequence_nodup : (heap.map QueueItem.sequence).Nodup
  sequence_lt : ∀ item ∈ heap, item.sequence < sequence
  not_pending : ∀ f ∈ inFlight, pending f = none

namespace Agree

variable {heap heap' : List (QueueItem F W)}
  {pending : F → Option (QueueItem F W)} {inFlight : Finset F}
  {sequence : ℕ} {item : QueueItem F W}

theorem initial : Agree ([] : List (QueueItem F W)) (fun _ => none) ∅ 0 := by
  constructor <;> simp

/-- The next sequence number is in no item of the heap. -/
theorem fresh (h : Agree heap pending inFlight sequence) :
    sequence ∉ heap.map QueueItem.sequence := by
  intro hmem
  obtain ⟨other, hother, heq⟩ := List.mem_map.mp hmem
  have hlt := h.sequence_lt other hother
  omega

/-- Taking out a pending item with `remove` takes out that very item. -/
theorem removeFromHeap_perm (h : Agree heap pending inFlight sequence)
    (hitem : item ∈ heap) :
    heap.Perm
      (item :: InvestigationQueue.removeFromHeap heap item) := by
  have hself : item.sameOrder item = true := by simp [QueueItem.sameOrder]
  obtain ⟨other, before, after, -, hsame, hsplit, herase⟩ :=
    List.exists_of_eraseP (p := fun other => other.sameOrder item) hitem hself
  have hother : other ∈ heap := by simp [hsplit]
  have hsequence : other.sequence = item.sequence := by
    simp only [QueueItem.sameOrder, Bool.and_eq_true,
      decide_eq_true_eq] at hsame
    exact hsame.2
  obtain rfl : other = item :=
    List.inj_on_of_nodup_map h.sequence_nodup hother hitem hsequence
  rw [InvestigationQueue.removeFromHeap, herase, hsplit]
  exact List.perm_middle

variable [DecidableEq F]

theorem remove (h : Agree heap pending inFlight sequence)
    (hperm : heap.Perm (item :: heap')) :
    Agree heap' (fun f => if f = item.fingerprint then none else pending f)
      inFlight sequence := by
  have hnodup : ((item :: heap').map QueueItem.sequence).Nodup :=
    (hperm.map QueueItem.sequence).nodup_iff.mp h.sequence_nodup
  obtain ⟨hfresh, hnodup'⟩ := List.nodup_cons.mp hnodup
  have hitem : pending item.fingerprint = some item :=
    (h.mem_heap_iff item).mp (hperm.mem_iff.mpr List.mem_cons_self)
  have hmem : ∀ other, other ∈ heap' ↔ other ∈ heap ∧ other ≠ item := by
    intro other
    rw [hperm.mem_iff, List.mem_cons]
    constructor
    · intro hother
      refine ⟨Or.inr hother, ?_⟩
      rintro rfl
      exact hfresh (List.mem_map_of_mem hother)
    · rintro ⟨rfl | hother, hne⟩
      · exact absurd rfl hne
      · exact hother
  refine ⟨?_, ?_, hnodup', ?_, ?_⟩
  · intro other
    rw [hmem, h.mem_heap_iff]
    by_cases hkey : other.fingerprint = item.fingerprint
    · simp only [hkey, if_true, reduceCtorEq, iff_false, not_and, not_not]
      intro hother
      exact Option.some.inj (hother.symm.trans hitem)
    · simp only [hkey, if_false, and_iff_left_iff_imp]
      rintro - rfl
      exact hkey rfl
  · intro f other hother
    split at hother
    · cases hother
    · exact h.pending_key f other hother
  · intro other hother
    exact h.sequence_lt other ((hmem other).mp hother).1
  · intro f hf
    simp [h.not_pending f hf]

theorem insert (h : Agree heap pending inFlight sequence)
    (item : QueueItem F W)
    (hperm : heap'.Perm (item :: heap))
    (hnew : pending item.fingerprint = none)
    (hfree : item.fingerprint ∉ inFlight)
    (hfresh : item.sequence ∉ heap.map QueueItem.sequence)
    {sequence' : ℕ} (hle : sequence ≤ sequence')
    (hlt : item.sequence < sequence') :
    Agree heap'
      (fun f => if f = item.fingerprint then some item else pending f)
      inFlight sequence' := by
  refine ⟨?_, ?_, ?_, ?_, ?_⟩
  · intro other
    rw [hperm.mem_iff, List.mem_cons, h.mem_heap_iff]
    by_cases hkey : other.fingerprint = item.fingerprint
    · simp [hkey, hnew, eq_comm]
    · simp only [hkey, if_false, or_iff_right_iff_imp]
      rintro rfl
      exact absurd rfl hkey
  · intro f other hother
    split at hother
    next hf =>
      obtain rfl := Option.some.inj hother
      exact hf.symm
    next => exact h.pending_key f other hother
  · rw [(hperm.map QueueItem.sequence).nodup_iff]
    exact List.nodup_cons.mpr ⟨hfresh, h.sequence_nodup⟩
  · intro other hother
    rcases List.mem_cons.mp (hperm.mem_iff.mp hother) with rfl | hother
    · exact hlt
    · exact (h.sequence_lt other hother).trans_le hle
  · intro f hf
    have hne : f ≠ item.fingerprint := by
      rintro rfl
      exact hfree hf
    simp [hne, h.not_pending f hf]

end Agree

namespace InvestigationQueue

theorem mem_of_worst? {heap : List (QueueItem F W)} {worst : QueueItem F W}
    (h : worst? heap = some worst) : worst ∈ heap := by
  induction heap generalizing worst with
  | nil => cases h
  | cons item rest ih =>
      rw [worst?] at h
      rcases hrest : worst? rest with _ | other
      · simp only [hrest, Option.some.injEq] at h
        simp [h]
      · simp only [hrest] at h
        split at h
        · obtain rfl := Option.some.inj h
          exact List.mem_cons_of_mem item (ih hrest)
        · simp [Option.some.inj h]

variable [DecidableEq F]

def Consistent (q : InvestigationQueue F W) : Prop :=
  Agree q.heap q.pending.get? q.inFlight q.sequence

variable {q : InvestigationQueue F W} {cfg : QueueSettings} {fingerprint : F}
  {severity : String} {payload : W}

theorem consistent_initial : (initial : InvestigationQueue F W).Consistent :=
  Agree.initial

theorem heapify_removeFromHeap_perm {item : QueueItem F W}
    (h : q.Consistent) (hitem : q.pending.get? item.fingerprint = some item) :
    q.heap.Perm
      (item :: Heapq.heapify QueueItem.lt (removeFromHeap q.heap item)) := by
  have hmem : item ∈ q.heap := (h.mem_heap_iff item).mpr hitem
  exact (h.removeFromHeap_perm hmem).trans
    ((Heapq.heapify_perm _).symm.cons item)

/-! ## What the operations do to the pending items -/

theorem Consistent.append {priority : ℕ} {evicted : Option F}
    (h : q.Consistent) (hnew : q.pending.get? fingerprint = none)
    (hfree : fingerprint ∉ q.inFlight) :
    (q.append priority fingerprint payload evicted).2.Consistent := by
  let item : QueueItem F W := ⟨priority, q.sequence, fingerprint, payload⟩
  have hagree := Agree.insert h item
    (Heapq.heapPush_perm QueueItem.lt q.heap item) hnew hfree h.fresh
    (Nat.le_succ q.sequence) (Nat.lt_succ_self q.sequence)
  have hpending : (q.pending.set fingerprint item).get? =
      fun f => if f = fingerprint then some item else q.pending.get? f := by
    funext f
    exact OrderedDict.get?_set
  rw [Consistent, InvestigationQueue.append, hpending]
  exact hagree

theorem Consistent.evict {worst : QueueItem F W} (h : q.Consistent)
    (hworst : worst ∈ q.heap) : (q.evict worst).Consistent := by
  have hitem := (h.mem_heap_iff worst).mp hworst
  have hagree := Agree.remove h (heapify_removeFromHeap_perm h hitem)
  have hpending : (q.pending.erase worst.fingerprint).get? =
      fun f => if f = worst.fingerprint then none else q.pending.get? f := by
    funext f
    exact OrderedDict.get?_erase
  rw [Consistent, InvestigationQueue.evict, hpending]
  exact hagree

theorem Consistent.coalesce {existing : QueueItem F W} {priority : ℕ}
    (h : q.Consistent) (hexisting : q.pending.get? fingerprint = some existing)
    (hfree : fingerprint ∉ q.inFlight) :
    (q.coalesce existing priority fingerprint payload).2.Consistent := by
  have hkey : existing.fingerprint = fingerprint :=
    h.pending_key fingerprint existing hexisting
  let replacement : QueueItem F W :=
    ⟨min priority existing.priority, existing.sequence, fingerprint, payload⟩
  have hperm := heapify_removeFromHeap_perm h (hkey ▸ hexisting)
  have hremoved := Agree.remove h hperm
  have hmem : existing ∈ q.heap :=
    (h.mem_heap_iff existing).mpr (hkey ▸ hexisting)
  have hfresh : replacement.sequence ∉
      (Heapq.heapify QueueItem.lt
        (removeFromHeap q.heap existing)).map QueueItem.sequence :=
    (List.nodup_cons.mp
      ((hperm.map QueueItem.sequence).nodup_iff.mp h.sequence_nodup)).1
  have hagree := Agree.insert hremoved replacement
    (Heapq.heapPush_perm QueueItem.lt _ replacement)
    (by simp [replacement, hkey]) hfree hfresh (le_refl q.sequence)
    (h.sequence_lt existing hmem)
  have hpending : (q.pending.set fingerprint replacement).get? =
      fun f => if f = replacement.fingerprint then some replacement
        else if f = existing.fingerprint then none else q.pending.get? f := by
    funext f
    rw [OrderedDict.get?_set]
    by_cases hf : f = fingerprint
    · simp [hf, replacement]
    · simp [hf, replacement, hkey]
  rw [Consistent, InvestigationQueue.coalesce, hpending]
  exact hagree

theorem Consistent.enqueue (h : q.Consistent) :
    (q.enqueue cfg fingerprint severity payload).2.Consistent := by
  simp only [InvestigationQueue.enqueue]
  split
  · exact h
  split
  · exact h
  next hfree =>
    split
    next existing hexisting => exact h.coalesce hexisting hfree
    next hnew =>
      split
      · exact h.append hnew hfree
      · split
        · exact h.append hnew hfree
        next worst hworst =>
          split
          · exact h
          · refine (h.evict (mem_of_worst? hworst)).append ?_ hfree
            rw [InvestigationQueue.evict, OrderedDict.get?_erase, hnew,
              ite_self]

theorem Consistent.cancel (h : q.Consistent) :
    (q.cancel fingerprint).2.Consistent := by
  simp only [InvestigationQueue.cancel]
  split
  next item hitem =>
    have hkey : item.fingerprint = fingerprint :=
      h.pending_key fingerprint item hitem
    subst hkey
    exact h.evict ((h.mem_heap_iff item).mpr hitem)
  · split
    · exact h
    · exact h

/-- All that `next` does: it pops the heap, forgets the pending item and marks
its incident. -/
theorem exists_heapPop_of_next {item : QueueItem F W}
    {q' : InvestigationQueue F W} (hnext : q.next = some (item, q')) :
    ∃ heap, Heapq.heapPop QueueItem.lt q.heap = some (item, heap) ∧
      q' = { q with
        heap := heap
        pending := q.pending.erase item.fingerprint
        inFlight := Insert.insert item.fingerprint q.inFlight } := by
  rw [InvestigationQueue.next] at hnext
  rcases hpop : Heapq.heapPop QueueItem.lt q.heap with _ | ⟨first, heap⟩
  · simp [hpop] at hnext
  · simp only [hpop, Option.some.injEq, Prod.mk.injEq] at hnext
    obtain ⟨rfl, rfl⟩ := hnext
    exact ⟨heap, rfl, rfl⟩

theorem Consistent.next {item : QueueItem F W} {q' : InvestigationQueue F W}
    (h : q.Consistent) (hnext : q.next = some (item, q')) :
    q'.Consistent ∧ item ∈ q.heap ∧ item.fingerprint ∉ q.inFlight := by
  obtain ⟨heap, hpop, rfl⟩ := exists_heapPop_of_next hnext
  have hperm := Heapq.heapPop_perm hpop
  have hmem : item ∈ q.heap := hperm.mem_iff.mpr List.mem_cons_self
  have hfree : item.fingerprint ∉ q.inFlight := by
    intro hin
    have hnone := h.not_pending _ hin
    rw [(h.mem_heap_iff item).mp hmem] at hnone
    cases hnone
  have hagree := Agree.remove h hperm
  refine ⟨?_, hmem, hfree⟩
  have hpending : (q.pending.erase item.fingerprint).get? =
      fun f => if f = item.fingerprint then none else q.pending.get? f := by
    funext f
    exact OrderedDict.get?_erase
  rw [Consistent, hpending]
  refine ⟨hagree.mem_heap_iff, hagree.pending_key, hagree.sequence_nodup,
    hagree.sequence_lt, ?_⟩
  intro f hf
  rcases Finset.mem_insert.mp hf with rfl | hf
  · simp
  · exact hagree.not_pending f hf

theorem Consistent.release (h : q.Consistent) :
    (q.release fingerprint).Consistent := by
  refine ⟨h.mem_heap_iff, h.pending_key, h.sequence_nodup, h.sequence_lt, ?_⟩
  intro f hf
  exact h.not_pending f (Finset.mem_of_mem_erase hf)

/-- After `enqueue`, a pending item was pending before or is the new one. -/
theorem pending_enqueue_cases {f : F} {item : QueueItem F W}
    (hitem : (q.enqueue cfg fingerprint severity payload).2.pending.get? f =
      some item) :
    q.pending.get? f = some item ∨
      (f = fingerprint ∧ fingerprint ∉ q.inFlight ∧ item.payload = payload) := by
  simp only [InvestigationQueue.enqueue] at hitem
  split at hitem
  · exact Or.inl hitem
  split at hitem
  · exact Or.inl hitem
  next hfree =>
    have hset : ∀ (pending : OrderedDict F (QueueItem F W))
        (new : QueueItem F W), new.payload = payload →
        (pending.set fingerprint new).get? f = some item →
        pending.get? f = some item ∨
          (f = fingerprint ∧ fingerprint ∉ q.inFlight ∧
            item.payload = payload) := by
      intro pending new hnew hget
      rcases OrderedDict.get?_set_cases hget with ⟨hf, rfl⟩ | ⟨-, hold⟩
      · exact Or.inr ⟨hf.symm, hfree, hnew⟩
      · exact Or.inl hold
    split at hitem
    · exact hset _ _ rfl hitem
    · split at hitem
      · exact hset _ _ rfl hitem
      · split at hitem
        · exact hset _ _ rfl hitem
        · split at hitem
          · exact Or.inl hitem
          · refine (hset _ _ rfl hitem).imp (fun hget => ?_) id
            exact (OrderedDict.get?_erase_cases hget).2

@[simp] theorem inFlight_enqueue :
    (q.enqueue cfg fingerprint severity payload).2.inFlight = q.inFlight := by
  simp only [InvestigationQueue.enqueue]
  split
  · rfl
  split
  · rfl
  split
  · rfl
  split
  · rfl
  split
  · rfl
  split <;> rfl

@[simp] theorem inFlight_cancel :
    (q.cancel fingerprint).2.inFlight = q.inFlight := by
  simp only [InvestigationQueue.cancel]
  split
  · rfl
  · split <;> rfl

theorem pending_cancel {f : F} :
    (q.cancel fingerprint).2.pending.get? f =
      if f = fingerprint then none else q.pending.get? f := by
  simp only [InvestigationQueue.cancel]
  split
  · exact OrderedDict.get?_erase
  next hnone =>
    have hsame : q.pending.get? f =
        if f = fingerprint then none else q.pending.get? f := by
      by_cases hf : f = fingerprint
      · simp [hf, hnone]
      · simp [hf]
    split <;> exact hsame

/-- `cancel` reports an incident in flight exactly when a worker holds it. -/
theorem cancel_inFlight_iff (h : q.Consistent) :
    (q.cancel fingerprint).1 = .inFlight ↔ fingerprint ∈ q.inFlight := by
  simp only [InvestigationQueue.cancel]
  split
  next item hitem =>
    simp only [reduceCtorEq, false_iff]
    intro hin
    rw [h.not_pending _ hin] at hitem
    cases hitem
  · split
    next hin => simp [hin]
    next hout => simp [hout]

theorem next_eq_some {item : QueueItem F W} {q' : InvestigationQueue F W}
    (hnext : q.next = some (item, q')) :
    q'.inFlight = Insert.insert item.fingerprint q.inFlight ∧
      ∀ f, q'.pending.get? f =
        if f = item.fingerprint then none else q.pending.get? f := by
  obtain ⟨heap, -, rfl⟩ := exists_heapPop_of_next hnext
  exact ⟨rfl, fun f => OrderedDict.get?_erase⟩

/-! ## Open and closed queues -/

def flags (q : InvestigationQueue F W) : Bool × Bool := (q.accepting, q.closing)

theorem flags_enqueue :
    (q.enqueue cfg fingerprint severity payload).2.flags = q.flags := by
  simp only [InvestigationQueue.enqueue]
  split
  · rfl
  split
  · rfl
  split
  · rfl
  split
  · rfl
  split
  · rfl
  split
  · rfl
  · rfl

theorem flags_cancel : (q.cancel fingerprint).2.flags = q.flags := by
  simp only [InvestigationQueue.cancel]
  split
  · rfl
  split
  · rfl
  · rfl

theorem flags_next {item : QueueItem F W} {q' : InvestigationQueue F W}
    (hnext : q.next = some (item, q')) : q'.flags = q.flags := by
  obtain ⟨heap, -, rfl⟩ := exists_heapPop_of_next hnext
  rfl

omit [DecidableEq F] in
theorem flags_recordHandled (returned : Bool) :
    (q.recordHandled returned).flags = q.flags := by
  rcases returned with _ | _
  · rfl
  · rfl

/-- A closed queue takes no new items. -/
theorem heap_enqueue_of_closed (h : q.accepting = false) :
    (q.enqueue cfg fingerprint severity payload).2.heap = q.heap := by
  simp only [InvestigationQueue.enqueue, if_pos h]

theorem heap_cancel_of_empty (h : q.Consistent) (hempty : q.heap = []) :
    (q.cancel fingerprint).2.heap = [] := by
  simp only [InvestigationQueue.cancel]
  split
  next item hitem =>
    have hkey := h.pending_key fingerprint item hitem
    have hmem := (h.mem_heap_iff item).mpr (hkey ▸ hitem)
    rw [hempty] at hmem
    cases hmem
  · split
    · exact hempty
    · exact hempty

end InvestigationQueue

end UyuniAgent.Queue
