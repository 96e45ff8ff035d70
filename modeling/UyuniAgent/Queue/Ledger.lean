import Mathlib.Algebra.BigOperators.Group.Finset.Piecewise
import UyuniAgent.Queue.Exclusivity

/-!
# A ledger of accepted investigations

Every accepted item has an arrival number of its own, which coalescing keeps.
The ledger follows these numbers beside the queue: which one each worker has
taken, and by which exit the others left.  The counters of the queue are its
totals.
-/

namespace UyuniAgent.Queue

open Transition

variable {F W : Type}

/-! ## The ledger -/

inductive Exit
  | completed
  | failed
  | evicted
  | cancelled
  deriving DecidableEq

/-- The counter of an exit. -/
def InvestigationQueue.exited (q : InvestigationQueue F W) : Exit → ℕ
  | .completed => q.completed
  | .failed => q.failed
  | .evicted => q.evicted
  | .cancelled => q.cancelled

structure Ledger (F W : Type) where
  system : QueueSystem F W
  /-- The arrival number of the item that a worker handles. -/
  taken : ℕ → Option ℕ
  exits : List (ℕ × Exit)

namespace Ledger

def initial : Ledger F W := ⟨.initial, fun _ => none, []⟩

variable [DecidableEq F]

/-- The item that leaves the queue for good with an event, and its exit. -/
def exit? (cfg : QueueSettings) (l : Ledger F W) :
    QueueEvent F W → Option (ℕ × Exit)
  | .enqueue fingerprint severity payload =>
      let result := (l.system.queue.enqueue cfg fingerprint severity payload).1
      (result.evictedFingerprint.bind l.system.queue.pending.get?).map
        fun item => (item.sequence, .evicted)
  | .cancel fingerprint =>
      (l.system.queue.pending.get? fingerprint).map
        fun item => (item.sequence, .cancelled)
  | .finish worker returned =>
      (l.taken worker).map
        fun number => (number, if returned then .completed else .failed)
  | _ => none

/-- The numbers that the workers hold after an event. -/
def takenAfter (l : Ledger F W) : QueueEvent F W → ℕ → Option ℕ
  | .pop worker =>
      Function.update l.taken worker
        (l.system.queue.next.map fun popped => popped.1.sequence)
  | .finish worker _ => Function.update l.taken worker none
  | _ => l.taken

/-- The queue and its workers take a step, and the ledger records it. -/
def step (cfg : QueueSettings) (l : Ledger F W) (e : QueueEvent F W) :
    Option (Ledger F W) :=
  (l.system.step cfg e).map fun system =>
    ⟨system, l.takenAfter e, (l.exit? cfg e).toList ++ l.exits⟩

/-- The ledger watches the system without taking part in it. -/
theorem exec_system (cfg : QueueSettings) (trace : List (QueueEvent F W)) :
    (exec (step cfg) (initial : Ledger F W) trace).map Ledger.system =
      exec (QueueSystem.step cfg) .initial trace := by
  induction trace using List.reverseRecOn with
  | nil => rfl
  | append_singleton past e ih =>
      rw [exec_concat, exec_concat, ← ih]
      rcases exec (step cfg) (initial : Ledger F W) past with _ | l
      · rfl
      · simp only [Option.bind_some, Option.map_some, step, Option.map_map]
        rcases l.system.step cfg e with _ | s
        · rfl
        · rfl

end Ledger

/-! ## The numbers in the queue -/

namespace InvestigationQueue

/-- The arrival numbers of the pending items. -/
def numbers (q : InvestigationQueue F W) : Multiset ℕ :=
  ↑(q.heap.map QueueItem.sequence)

/-- From `q` to `q'` the items `out` left, and the others that are in one of
the queues are in both or were accepted in between. -/
structure Flow (q q' : InvestigationQueue F W) (out : List (ℕ × Exit)) :
    Prop where
  numbers : q'.numbers + ↑(out.map Prod.fst) + Multiset.range q.sequence =
    q.numbers + Multiset.range q'.sequence
  enqueued : q'.enqueued + q.sequence = q.enqueued + q'.sequence
  exited : ∀ exit, q'.exited exit =
    q.exited exit + out.countP fun entry => entry.2 = exit

variable {q q' : InvestigationQueue F W} {cfg : QueueSettings}

/-- The heap and the counters of the ledger stay as they are. -/
theorem Flow.refl (q : InvestigationQueue F W) : q.Flow q [] where
  numbers := by simp
  enqueued := rfl
  exited _ := rfl

theorem Flow.reject (q : InvestigationQueue F W) :
    q.Flow { q with rejected := q.rejected + 1 } [] where
  numbers := by
    rw [List.map_nil, Multiset.coe_nil, add_zero]
    rfl
  enqueued := rfl
  exited _ := rfl

theorem numbers_eq_of_perm {item : QueueItem F W}
    (h : q.heap.Perm (item :: q'.heap)) :
    q.numbers = item.sequence ::ₘ q'.numbers :=
  Multiset.coe_eq_coe.mpr (h.map QueueItem.sequence)

variable [DecidableEq F]

theorem Flow.append (q : InvestigationQueue F W) (priority : ℕ)
    (fingerprint : F) (payload : W) (evicted : Option F) :
    q.Flow (q.append priority fingerprint payload evicted).2 [] where
  numbers := by
    have hpush : (q.append priority fingerprint payload evicted).2.numbers =
        _ ::ₘ q.numbers :=
      numbers_eq_of_perm (Heapq.heapPush_perm QueueItem.lt q.heap _)
    rw [hpush]
    simp [InvestigationQueue.append, Multiset.range_succ,
      Multiset.cons_add, Multiset.add_cons]
  enqueued := by
    simp only [InvestigationQueue.append]
    omega
  exited := by
    intro exit
    rcases exit with _ | _ | _ | _
    · rfl
    · rfl
    · rfl
    · rfl

theorem Flow.coalesce (hq : q.Consistent) {fingerprint : F}
    {existing : QueueItem F W}
    (hexisting : q.pending.get? fingerprint = some existing) (priority : ℕ)
    (payload : W) :
    q.Flow (q.coalesce existing priority fingerprint payload).2 [] where
  numbers := by
    have hkey := hq.pending_key fingerprint existing hexisting
    have hremove := (heapify_removeFromHeap_perm hq
      (hkey ▸ hexisting)).map QueueItem.sequence
    have hpush := (Heapq.heapPush_perm QueueItem.lt
      (Heapq.heapify QueueItem.lt (removeFromHeap q.heap existing))
      ⟨min priority existing.priority, existing.sequence, fingerprint,
        payload⟩).map QueueItem.sequence
    have hsame : (q.coalesce existing priority fingerprint payload).2.numbers =
        q.numbers := Multiset.coe_eq_coe.mpr (hpush.trans hremove.symm)
    rw [hsame]
    simp [InvestigationQueue.coalesce]
  enqueued := rfl
  exited _ := rfl

theorem Flow.evict (hq : q.Consistent) {worst : QueueItem F W}
    (hworst : worst ∈ q.heap) :
    q.Flow (q.evict worst) [(worst.sequence, .evicted)] where
  numbers := by
    have hremove : q.numbers = worst.sequence ::ₘ (q.evict worst).numbers :=
      numbers_eq_of_perm
        (heapify_removeFromHeap_perm hq ((hq.mem_heap_iff worst).mp hworst))
    rw [hremove, ← Multiset.singleton_add]
    simp [InvestigationQueue.evict, add_comm]
  enqueued := rfl
  exited := by
    intro exit
    rcases exit with _ | _ | _ | _
    · rfl
    · rfl
    · rfl
    · rfl

omit [DecidableEq F] in
theorem Flow.trans {q'' : InvestigationQueue F W} {out out' : List (ℕ × Exit)}
    (h : q.Flow q' out) (h' : q'.Flow q'' out') :
    q.Flow q'' (out ++ out') where
  numbers := by
    have hcancel : q''.numbers + ↑((out ++ out').map Prod.fst) +
        Multiset.range q.sequence + Multiset.range q'.sequence =
        q.numbers + Multiset.range q''.sequence +
          Multiset.range q'.sequence := by
      rw [List.map_append, ← Multiset.coe_add]
      calc
        q''.numbers + (↑(out.map Prod.fst) + ↑(out'.map Prod.fst)) +
              Multiset.range q.sequence + Multiset.range q'.sequence =
            (q''.numbers + ↑(out'.map Prod.fst) +
              Multiset.range q'.sequence) + ↑(out.map Prod.fst) +
                Multiset.range q.sequence := by abel
        _ = (q'.numbers + ↑(out.map Prod.fst) + Multiset.range q.sequence) +
              Multiset.range q''.sequence := by
          rw [h'.numbers]
          abel
        _ = q.numbers + Multiset.range q''.sequence +
              Multiset.range q'.sequence := by
          rw [h.numbers]
          abel
    exact add_right_cancel hcancel
  enqueued := by
    have hfirst := h.enqueued
    have hsecond := h'.enqueued
    omega
  exited := by
    intro exit
    rw [h'.exited, h.exited, List.countP_append, add_assoc]

/-- What leaves with `enqueue` is the item whose eviction it reports. -/
theorem Flow.enqueue (hq : q.Consistent) (fingerprint : F)
    (severity : String) (payload : W) :
    q.Flow (q.enqueue cfg fingerprint severity payload).2
      (((q.enqueue cfg fingerprint severity payload).1.evictedFingerprint.bind
        q.pending.get?).map fun item =>
          (item.sequence, Exit.evicted)).toList := by
  simp only [InvestigationQueue.enqueue]
  split
  · exact Flow.reject q
  split
  · exact Flow.refl q
  split
  next existing hexisting =>
    exact Flow.coalesce hq hexisting _ payload
  split
  · exact Flow.append q _ fingerprint payload none
  split
  · exact Flow.append q _ fingerprint payload none
  next worst hworst =>
    split
    · exact Flow.reject q
    · have hmem := mem_of_worst? hworst
      have hflow := (Flow.evict hq hmem).trans
        (Flow.append (q.evict worst) (priorityForSeverity severity)
          fingerprint payload (some worst.fingerprint))
      have hpending := (hq.mem_heap_iff worst).mp hmem
      simpa [InvestigationQueue.append, InvestigationQueue.result,
        hpending] using hflow

theorem Flow.cancel (hq : q.Consistent) (fingerprint : F) :
    q.Flow (q.cancel fingerprint).2
      ((q.pending.get? fingerprint).map fun item =>
        (item.sequence, Exit.cancelled)).toList := by
  simp only [InvestigationQueue.cancel]
  split
  next item hitem =>
    rw [hitem]
    have hkey := hq.pending_key fingerprint item hitem
    have hperm : q.heap.Perm (item :: (q.cancel fingerprint).2.heap) := by
      rw [InvestigationQueue.cancel, hitem]
      exact heapify_removeFromHeap_perm hq (hkey ▸ hitem)
    have hremove := numbers_eq_of_perm hperm
    rw [InvestigationQueue.cancel, hitem] at hremove
    refine ⟨?_, rfl, ?_⟩
    · rw [hremove, ← Multiset.singleton_add]
      simp [add_comm]
    · intro exit
      rcases exit with _ | _ | _ | _
      · rfl
      · rfl
      · rfl
      · rfl
  next hnone =>
    rw [hnone]
    split
    · exact Flow.refl q
    · exact Flow.refl q

/-- A pop takes a number out of the queue, and nothing is counted yet. -/
theorem numbers_next {item : QueueItem F W} (hnext : q.next = some (item, q')) :
    q.numbers = item.sequence ::ₘ q'.numbers ∧ q'.sequence = q.sequence ∧
      q'.enqueued = q.enqueued ∧ q'.exited = q.exited := by
  obtain ⟨heap, hpop, rfl⟩ := exists_heapPop_of_next hnext
  refine ⟨Multiset.coe_eq_coe.mpr
    ((Heapq.heapPop_perm hpop).map QueueItem.sequence), rfl, rfl, ?_⟩
  funext exit
  rcases exit with _ | _ | _ | _
  · rfl
  · rfl
  · rfl
  · rfl

end InvestigationQueue

/-! ## The numbers of the workers -/

/-- The numbers that the first `count` workers hold. -/
def takenNumbers (count : ℕ) (taken : ℕ → Option ℕ) : Multiset ℕ :=
  ∑ worker ∈ Finset.range count, ↑(taken worker).toList

theorem takenNumbers_update {count worker : ℕ} (taken : ℕ → Option ℕ)
    (number? : Option ℕ) (hworker : worker < count) :
    takenNumbers count (Function.update taken worker number?) +
        ↑(taken worker).toList =
      takenNumbers count taken + ↑number?.toList := by
  have hmem := Finset.mem_range.mpr hworker
  have hothers : ∑ other ∈ (Finset.range count).erase worker,
        (↑(Function.update taken worker number? other).toList : Multiset ℕ) =
      ∑ other ∈ (Finset.range count).erase worker,
        (↑(taken other).toList : Multiset ℕ) := by
    apply Finset.sum_congr rfl
    intro other hother
    rw [Function.update_of_ne (Finset.ne_of_mem_erase hother)]
  rw [takenNumbers, takenNumbers, ← Finset.sum_erase_add _ _ hmem,
    ← Finset.sum_erase_add (Finset.range count)
      (fun other => (↑(taken other).toList : Multiset ℕ)) hmem, hothers,
    Function.update_self, add_right_comm]

theorem takenNumbers_none (count : ℕ) :
    takenNumbers count (fun _ => none) = 0 := by
  apply Finset.sum_eq_zero
  intro _ _
  rfl

theorem mem_takenNumbers {count number : ℕ} {taken : ℕ → Option ℕ} :
    number ∈ takenNumbers count taken ↔
      ∃ worker < count, taken worker = some number := by
  simp [takenNumbers, Multiset.mem_sum]

theorem card_takenNumbers (count : ℕ) (taken : ℕ → Option ℕ) :
    (takenNumbers count taken).card =
      ((Finset.range count).filter fun worker =>
        (taken worker).isSome).card := by
  rw [takenNumbers, Multiset.card_sum, Finset.card_filter]
  apply Finset.sum_congr rfl
  intro worker _
  rcases taken worker with _ | number
  · rfl
  · rfl

/-- There are as many marks as workers that hold one. -/
theorem Marked.card_eq {cfg : QueueSettings} {workers : ℕ → WorkerState F}
    {inFlight : Finset F} (h : Marked cfg workers inFlight) :
    inFlight.card = ((Finset.range cfg.workers).filter fun worker =>
      (workers worker).held.isSome).card := by
  classical
  have himage : inFlight.image some =
      ((Finset.range cfg.workers).filter fun worker =>
        (workers worker).held.isSome).image
          fun worker => (workers worker).held := by
    ext mark
    simp only [Finset.mem_image, Finset.mem_filter, Finset.mem_range]
    constructor
    · rintro ⟨f, hf, rfl⟩
      obtain ⟨worker, hworker⟩ := (h.mem_iff f).mp hf
      have hne : workers worker ≠ .absent := by
        intro habsent
        rw [habsent] at hworker
        cases hworker
      have hlt := h.lt_of_ne_absent hne
      exact ⟨worker, ⟨hlt, by rw [hworker]; rfl⟩, hworker⟩
    · rintro ⟨worker, ⟨-, hheld⟩, rfl⟩
      obtain ⟨f, hf⟩ := Option.isSome_iff_exists.mp hheld
      exact ⟨f, (h.mem_iff f).mpr ⟨worker, hf⟩, hf.symm⟩
  rw [← Finset.card_image_of_injective inFlight (Option.some_injective F),
    himage]
  apply Finset.card_image_of_injOn
  intro worker hworker other _ hsame
  obtain ⟨f, hf⟩ :=
    Option.isSome_iff_exists.mp (Finset.mem_filter.mp hworker).2
  exact h.unique worker other f hf (hsame.symm.trans hf)

/-! ## The totals -/

/-- Every accepted number is pending, taken or in the ledger, and the counters
are the totals of the ledger. -/
structure Tallied (count : ℕ) (q : InvestigationQueue F W)
    (taken : ℕ → Option ℕ) (exits : List (ℕ × Exit)) : Prop where
  numbers : q.numbers + takenNumbers count taken + ↑(exits.map Prod.fst) =
    Multiset.range q.sequence
  enqueued : q.enqueued = q.sequence
  exited : ∀ exit, q.exited exit = exits.countP fun entry => entry.2 = exit

section Tallied

variable {count worker number : ℕ} {q q' : InvestigationQueue F W}
  {taken : ℕ → Option ℕ} {exits : List (ℕ × Exit)}

theorem tallied_initial (count : ℕ) :
    Tallied count (.initial : InvestigationQueue F W) (fun _ => none) [] where
  numbers := by
    simp [InvestigationQueue.initial, InvestigationQueue.numbers,
      takenNumbers_none]
  enqueued := rfl
  exited exit := by
    rcases exit with _ | _ | _ | _
    · rfl
    · rfl
    · rfl
    · rfl

theorem Tallied.flow (h : Tallied count q taken exits)
    {out : List (ℕ × Exit)} (hflow : q.Flow q' out) :
    Tallied count q' taken (out ++ exits) where
  numbers := by
    apply add_right_cancel (b := Multiset.range q.sequence)
    rw [List.map_append, ← Multiset.coe_add]
    calc
      q'.numbers + takenNumbers count taken +
            (↑(out.map Prod.fst) + ↑(exits.map Prod.fst)) +
              Multiset.range q.sequence =
          (q'.numbers + ↑(out.map Prod.fst) + Multiset.range q.sequence) +
            (takenNumbers count taken + ↑(exits.map Prod.fst)) := by abel
      _ = (q.numbers + takenNumbers count taken + ↑(exits.map Prod.fst)) +
            Multiset.range q'.sequence := by
        rw [hflow.numbers]
        abel
      _ = Multiset.range q'.sequence + Multiset.range q.sequence := by
        rw [h.numbers, add_comm]
  enqueued := by
    have henqueued := h.enqueued
    have hsame := hflow.enqueued
    omega
  exited := by
    intro exit
    rw [hflow.exited, h.exited, List.countP_append, add_comm]

theorem Tallied.take [DecidableEq F] (h : Tallied count q taken exits)
    (hworker : worker < count) (hfree : taken worker = none)
    {item : QueueItem F W} (hnext : q.next = some (item, q')) :
    Tallied count q' (Function.update taken worker (some item.sequence))
      exits where
  numbers := by
    obtain ⟨hnumbers, hsequence, -⟩ := InvestigationQueue.numbers_next hnext
    have hupdate := takenNumbers_update taken (some item.sequence) hworker
    have hpending := h.numbers
    simp only [hfree, Option.toList_none, Multiset.coe_nil, add_zero,
      Option.toList_some, Multiset.coe_singleton] at hupdate
    rw [hnumbers, ← Multiset.singleton_add] at hpending
    rw [hsequence, ← hpending, hupdate]
    abel
  enqueued := by
    obtain ⟨-, hsequence, henqueued, -⟩ :=
      InvestigationQueue.numbers_next hnext
    rw [henqueued, hsequence, h.enqueued]
  exited := by
    obtain ⟨-, -, -, hexited⟩ := InvestigationQueue.numbers_next hnext
    rw [hexited]
    exact h.exited

theorem Tallied.handle (h : Tallied count q taken exits)
    (hworker : worker < count) (htaken : taken worker = some number)
    (returned : Bool) :
    Tallied count (q.recordHandled returned)
      (Function.update taken worker none)
      ((number, if returned then .completed else .failed) :: exits) where
  numbers := by
    have hupdate := takenNumbers_update taken none hworker
    have hnumbers := h.numbers
    simp only [htaken, Option.toList_none, Multiset.coe_nil, add_zero,
      Option.toList_some, Multiset.coe_singleton] at hupdate
    have hsame : (q.recordHandled returned).numbers = q.numbers := by
      rcases returned with _ | _
      · rfl
      · rfl
    have hsequence : (q.recordHandled returned).sequence = q.sequence := by
      rcases returned with _ | _
      · rfl
      · rfl
    rw [List.map_cons, ← Multiset.cons_coe, ← Multiset.singleton_add, hsame,
      hsequence, ← hnumbers, ← hupdate]
    abel
  enqueued := by
    rcases returned with _ | _
    · exact h.enqueued
    · exact h.enqueued
  exited := by
    intro exit
    rw [List.countP_cons, ← h.exited]
    rcases returned with _ | _
    · rcases exit with _ | _ | _ | _
      · rfl
      · rfl
      · rfl
      · rfl
    · rcases exit with _ | _ | _ | _
      · rfl
      · rfl
      · rfl
      · rfl

end Tallied

/-! ## The workers -/

/-- The workers with a number are those that run their handler. -/
def Takes (workers : ℕ → WorkerState F) (taken : ℕ → Option ℕ) : Prop :=
  ∀ worker, (taken worker).isSome ↔ ∃ f, workers worker = .handling f

section Takes

variable {workers : ℕ → WorkerState F} {taken : ℕ → Option ℕ} {worker : ℕ}
  {state : WorkerState F}

theorem Takes.eq_none (h : Takes workers taken)
    (hidle : ∀ f, workers worker ≠ .handling f) : taken worker = none := by
  rw [← Option.not_isSome_iff_eq_none, h worker]
  rintro ⟨f, hf⟩
  exact hidle f hf

theorem Takes.update (h : Takes workers taken) {number? : Option ℕ}
    (hsame : number?.isSome ↔ ∃ f, state = .handling f) :
    Takes (Function.update workers worker state)
      (Function.update taken worker number?) := by
  intro other
  by_cases hother : other = worker
  · rw [hother, Function.update_self, Function.update_self]
    exact hsame
  · rw [Function.update_of_ne hother, Function.update_of_ne hother]
    exact h other

/-- A worker without a number moves on without one. -/
theorem Takes.move (h : Takes workers taken)
    (hbefore : ∀ f, workers worker ≠ .handling f)
    (hafter : ∀ f, state ≠ .handling f) :
    Takes (Function.update workers worker state) taken := by
  have hnone := h.eq_none hbefore
  have hupdate : Takes (Function.update workers worker state)
      (Function.update taken worker none) :=
    h.update (by simpa using hafter)
  rwa [← hnone, Function.update_eq_self] at hupdate

end Takes

/-- No worker was cancelled, and a worker that left did so when the queue was
closing and empty. -/
structure QueueSystem.Orderly (cfg : QueueSettings) (s : QueueSystem F W) :
    Prop where
  uninterrupted : ∀ worker f, s.workers worker ≠ .interrupted f ∧
    s.workers worker ≠ .lost f
  closed : s.queue.closing = true → s.queue.accepting = false
  left : s.started = true → ∀ worker < cfg.workers,
    s.workers worker = .absent → s.queue.closing = true ∧ s.queue.heap = []

namespace QueueSystem

variable {cfg : QueueSettings} {s s' : QueueSystem F W}

theorem orderly_initial : (initial : QueueSystem F W).Orderly cfg where
  uninterrupted worker f := by simp [initial]
  closed h := nomatch h
  left h := nomatch h

/-- A method that leaves the flags alone and puts nothing into an empty queue
that is closed. -/
theorem Orderly.setQueue (h : s.Orderly cfg) {queue : InvestigationQueue F W}
    (hflags : queue.flags = s.queue.flags)
    (hempty : s.queue.accepting = false → s.queue.heap = [] →
      queue.heap = []) :
    ({ s with queue := queue } : QueueSystem F W).Orderly cfg where
  uninterrupted := h.uninterrupted
  closed := by
    obtain ⟨haccepting, hclosing⟩ := Prod.mk.inj hflags
    dsimp only
    rw [haccepting, hclosing]
    exact h.closed
  left := by
    obtain ⟨-, hclosing⟩ := Prod.mk.inj hflags
    dsimp only
    intro hstarted worker hworker habsent
    obtain ⟨hclosed, hheap⟩ := h.left hstarted worker hworker habsent
    exact ⟨hclosing.trans hclosed, hempty (h.closed hclosed) hheap⟩

/-- A worker moves on, and leaves only a closing queue that is empty. -/
theorem Orderly.setWorker (h : s.Orderly cfg) {worker : ℕ}
    {state : WorkerState F}
    (hstate : state = .waiting ∨ (∃ f, state = .handling f) ∨
      (∃ f, state = .clearing f) ∨
      (state = .absent ∧ s.queue.closing = true ∧ s.queue.heap = [])) :
    (s.setWorker worker state).Orderly cfg where
  uninterrupted := by
    intro other f
    dsimp only [QueueSystem.setWorker]
    by_cases hother : other = worker
    · rw [hother, Function.update_self]
      rcases hstate with rfl | ⟨g, rfl⟩ | ⟨g, rfl⟩ | ⟨rfl, -⟩
      · simp
      · simp
      · simp
      · simp
    · rw [Function.update_of_ne hother]
      exact h.uninterrupted other f
  closed := h.closed
  left := by
    intro hstarted other hother habsent
    dsimp only [QueueSystem.setWorker] at habsent ⊢
    by_cases hsame : other = worker
    · rw [hsame, Function.update_self] at habsent
      rcases hstate with rfl | ⟨g, rfl⟩ | ⟨g, rfl⟩ | ⟨-, hleft⟩
      · cases habsent
      · cases habsent
      · cases habsent
      · exact hleft
    · rw [Function.update_of_ne hsame] at habsent
      exact h.left hstarted other hother habsent

variable [DecidableEq F]

theorem Orderly.step {e : QueueEvent F W} (h : s.Orderly cfg)
    (hq : s.queue.Consistent) (hordinary : ∀ worker, e ≠ .interrupt worker)
    (hstep : s.step cfg e = some s') : s'.Orderly cfg := by
  cases step_eq_some_iff.mp hstep with
  | start hstarted hclosing =>
      refine ⟨?_, h.closed, ?_⟩
      · intro worker f
        dsimp only
        split
        · simp
        · simp
      · intro _ worker hworker habsent
        dsimp only at habsent
        rw [if_pos hworker] at habsent
        cases habsent
  | enqueue f severity payload =>
      apply h.setQueue InvestigationQueue.flags_enqueue
      intro hclosed hempty
      rw [InvestigationQueue.heap_enqueue_of_closed hclosed, hempty]
  | cancel f =>
      apply h.setQueue InvestigationQueue.flags_cancel
      intro _ hempty
      exact InvestigationQueue.heap_cancel_of_empty hq hempty
  | pop hwaiting hnext =>
      have hqueue := h.setQueue (InvestigationQueue.flags_next hnext) (by
        intro _ hempty
        have hmem := (hq.next hnext).2.1
        rw [hempty] at hmem
        cases hmem)
      exact hqueue.setWorker (Or.inr (Or.inl ⟨_, rfl⟩))
  | leave hwaiting hempty hclosing =>
      exact h.setWorker (Or.inr (Or.inr (Or.inr ⟨rfl, hclosing, hempty⟩)))
  | finish returned hhandling =>
      have hqueue := h.setQueue
        (InvestigationQueue.flags_recordHandled returned) (by
          intro _ hempty
          rcases returned with _ | _
          · exact hempty
          · exact hempty)
      exact hqueue.setWorker (Or.inr (Or.inr (Or.inl ⟨_, rfl⟩)))
  | @clear worker f hclearing =>
      have hqueue : ({ s with queue := s.queue.release f } :
          QueueSystem F W).Orderly cfg :=
        h.setQueue rfl fun _ hempty => hempty
      exact hqueue.setWorker (Or.inl rfl)
  | clearInterrupted hinterrupted =>
      exact absurd hinterrupted (h.uninterrupted _ _).1
  | close =>
      refine ⟨h.uninterrupted, fun _ => rfl, ?_⟩
      intro hstarted worker hworker habsent
      exact ⟨rfl, (h.left hstarted worker hworker habsent).2⟩
  | interruptWaiting => exact absurd rfl (hordinary _)
  | interruptHandling => exact absurd rfl (hordinary _)
  | interruptClearing => exact absurd rfl (hordinary _)

end QueueSystem

namespace Ledger

variable [DecidableEq F] {cfg : QueueSettings} {l l' : Ledger F W}

/-- The invariant of a queue whose workers are never cancelled. -/
structure Balanced (cfg : QueueSettings) (l : Ledger F W) : Prop where
  valid : l.system.Valid cfg
  orderly : l.system.Orderly cfg
  tallied : Tallied cfg.workers l.system.queue l.taken l.exits
  takes : Takes l.system.workers l.taken

theorem balanced_initial : (initial : Ledger F W).Balanced cfg where
  valid := QueueSystem.valid_initial
  orderly := QueueSystem.orderly_initial
  tallied := tallied_initial cfg.workers
  takes worker := by simp [initial, QueueSystem.initial]

/-- A worker that runs its handler is one of the workers. -/
theorem Balanced.lt_workers (h : l.Balanced cfg) {worker : ℕ} {f : F}
    (hhandling : l.system.workers worker = .handling f) :
    worker < cfg.workers :=
  h.valid.marked.lt_of_ne_absent (by simp [hhandling])

/-- What an event does to the numbers. -/
theorem Balanced.tallied_step {e : QueueEvent F W} {s' : QueueSystem F W}
    (h : l.Balanced cfg) (hstep : l.system.step cfg e = some s') :
    Tallied cfg.workers s'.queue (l.takenAfter e)
      ((l.exit? cfg e).toList ++ l.exits) := by
  have hq := h.valid.consistent
  have hsame : l.system.queue.Flow l.system.queue [] := .refl _
  cases QueueSystem.step_eq_some_iff.mp hstep with
  | start hstarted hclosing => exact h.tallied
  | enqueue f severity payload =>
      exact h.tallied.flow (.enqueue hq f severity payload)
  | cancel f => exact h.tallied.flow (.cancel hq f)
  | @pop worker item queue hwaiting hnext =>
      have hne : l.system.workers worker ≠ .absent := by simp [hwaiting]
      have hidle : ∀ f, l.system.workers worker ≠ .handling f := by
        simp [hwaiting]
      have hlt := h.valid.marked.lt_of_ne_absent hne
      have hfree := h.takes.eq_none hidle
      have htaken := h.tallied.take hlt hfree hnext
      rw [takenAfter, hnext]
      exact htaken
  | leave hwaiting hempty hclosing => exact h.tallied
  | @finish worker f returned hhandling =>
      obtain ⟨number, hnumber⟩ := Option.isSome_iff_exists.mp
        ((h.takes worker).mpr ⟨f, hhandling⟩)
      have hhandled := h.tallied.handle (h.lt_workers hhandling) hnumber
        returned
      rw [takenAfter, exit?, hnumber]
      exact hhandled
  | @clear worker f hclearing =>
      have hrelease : l.system.queue.Flow (l.system.queue.release f) [] :=
        ⟨hsame.numbers, hsame.enqueued, hsame.exited⟩
      exact h.tallied.flow hrelease
  | @clearInterrupted worker f hinterrupted =>
      have hrelease : l.system.queue.Flow (l.system.queue.release f) [] :=
        ⟨hsame.numbers, hsame.enqueued, hsame.exited⟩
      exact h.tallied.flow hrelease
  | close =>
      have hclose : l.system.queue.Flow
          { l.system.queue with accepting := false, closing := true } [] :=
        ⟨hsame.numbers, hsame.enqueued, hsame.exited⟩
      exact h.tallied.flow hclose
  | interruptWaiting => exact h.tallied
  | interruptHandling => exact h.tallied
  | interruptClearing => exact h.tallied

/-- The workers with a number are still those that run their handler. -/
theorem Balanced.takes_step {e : QueueEvent F W} {s' : QueueSystem F W}
    (h : l.Balanced cfg) (hordinary : ∀ worker, e ≠ .interrupt worker)
    (hstep : l.system.step cfg e = some s') :
    Takes s'.workers (l.takenAfter e) := by
  have htakes := h.takes
  cases QueueSystem.step_eq_some_iff.mp hstep with
  | start hstarted hclosing =>
      intro worker
      have habsent := h.valid.absent_of_not_started hstarted worker
      have hidle : ∀ f, l.system.workers worker ≠ .handling f := by
        simp [habsent]
      have hnone := htakes.eq_none hidle
      simp only [takenAfter, hnone]
      split
      · simp
      · simp
  | enqueue f severity payload => exact htakes
  | cancel f => exact htakes
  | pop hwaiting hnext =>
      rw [takenAfter, hnext]
      exact htakes.update (by simp)
  | leave hwaiting hempty hclosing =>
      exact htakes.move (by simp [hwaiting]) (by simp)
  | finish returned hhandling => exact htakes.update (by simp)
  | clear hclearing => exact htakes.move (by simp [hclearing]) (by simp)
  | clearInterrupted hinterrupted =>
      exact htakes.move (by simp [hinterrupted]) (by simp)
  | close => exact htakes
  | interruptWaiting => exact absurd rfl (hordinary _)
  | interruptHandling => exact absurd rfl (hordinary _)
  | interruptClearing => exact absurd rfl (hordinary _)

theorem Balanced.step {e : QueueEvent F W} (h : l.Balanced cfg)
    (hordinary : ∀ worker, e ≠ .interrupt worker)
    (hstep : l.step cfg e = some l') : l'.Balanced cfg := by
  obtain ⟨s', hs', rfl⟩ := Option.map_eq_some_iff.mp hstep
  exact ⟨h.valid.step hs', h.orderly.step h.valid.consistent hordinary hs',
    h.tallied_step hs', h.takes_step hordinary hs'⟩

end Ledger

/-! ## Nothing is lost or counted twice -/

/-- What `close` can return in a state: without worker tasks, before `start` or
after an earlier `close`, whether the heap is empty; otherwise `drained` as
soon as every worker has ended. -/
inductive CloseReturns (s : QueueSystem F W) : Bool → Prop
  | withoutTasks (hended : ∀ worker, s.workers worker = .absent) :
      CloseReturns s s.queue.heap.isEmpty
  | gathered (hstarted : s.started = true)
      (hended : ∀ worker, s.workers worker = .absent) : CloseReturns s true

/-- The counters balance while no worker is about to clear its mark, every
accepted item that is neither pending nor with a worker left by exactly one
counted exit, and a queue that `close` reports as drained is empty. -/
structure Accounted (l : Ledger F W) : Prop where
  balance : (∀ worker f, l.system.workers worker ≠ .clearing f) →
    l.system.queue.enqueued =
      l.system.queue.heap.length + l.system.queue.inFlight.card +
        l.system.queue.completed + l.system.queue.failed +
          l.system.queue.evicted + l.system.queue.cancelled
  counted : ∀ exit, l.system.queue.exited exit =
    l.exits.countP fun entry => entry.2 = exit
  one_exit : (l.exits.map Prod.fst).Nodup
  exited_iff : ∀ number, number ∈ l.exits.map Prod.fst ↔
    number < l.system.queue.enqueued ∧
      number ∉ l.system.queue.heap.map QueueItem.sequence ∧
        ∀ worker, l.taken worker ≠ some number
  drained : CloseReturns l.system true →
    l.system.queue.heap = [] ∧ l.system.queue.inFlight = ∅

theorem length_eq_sum_countP (exits : List (ℕ × Exit)) :
    exits.length = (exits.countP fun entry => entry.2 = .completed) +
      (exits.countP fun entry => entry.2 = .failed) +
        (exits.countP fun entry => entry.2 = .evicted) +
          exits.countP fun entry => entry.2 = .cancelled := by
  induction exits with
  | nil => rfl
  | cons entry exits ih =>
      obtain ⟨number, exit⟩ := entry
      simp only [List.length_cons, List.countP_cons, ih]
      rcases exit with _ | _ | _ | _
      · simp
        omega
      · simp
        omega
      · simp
        omega
      · simp
        omega

namespace Ledger

variable [DecidableEq F] {cfg : QueueSettings} {l : Ledger F W}

/-- While no worker is about to clear its mark, the marks are those of the
workers with a number. -/
theorem Balanced.card_inFlight (h : l.Balanced cfg)
    (hnone : ∀ worker f, l.system.workers worker ≠ .clearing f) :
    l.system.queue.inFlight.card =
      (takenNumbers cfg.workers l.taken).card := by
  rw [h.valid.marked.card_eq, card_takenNumbers]
  congr 1
  apply Finset.filter_congr
  intro worker _
  rw [h.takes worker]
  rcases hworker : l.system.workers worker with _ | _ | f | f | f | f
  case absent => simp [WorkerState.held]
  case waiting => simp [WorkerState.held]
  case handling => simp [WorkerState.held]
  case clearing => exact absurd hworker (hnone worker f)
  case interrupted =>
    exact absurd hworker (h.orderly.uninterrupted worker f).1
  case lost => exact absurd hworker (h.orderly.uninterrupted worker f).2

theorem Balanced.balance (h : l.Balanced cfg)
    (hnone : ∀ worker f, l.system.workers worker ≠ .clearing f) :
    l.system.queue.enqueued =
      l.system.queue.heap.length + l.system.queue.inFlight.card +
        l.system.queue.completed + l.system.queue.failed +
          l.system.queue.evicted + l.system.queue.cancelled := by
  have hcard := congrArg Multiset.card h.tallied.numbers
  have hexits := length_eq_sum_countP l.exits
  rw [← h.tallied.exited, ← h.tallied.exited, ← h.tallied.exited,
    ← h.tallied.exited] at hexits
  simp only [Multiset.card_add, Multiset.coe_card, List.length_map,
    Multiset.card_range, InvestigationQueue.numbers,
    ← h.card_inFlight hnone] at hcard
  simp only [InvestigationQueue.exited] at hexits
  rw [h.tallied.enqueued]
  omega

theorem Balanced.empty_of_drained (h : l.Balanced cfg)
    (hdrained : CloseReturns l.system true) :
    l.system.queue.heap = [] ∧ l.system.queue.inFlight = ∅ := by
  have hmarks (hended : ∀ worker, l.system.workers worker = .absent) :
      l.system.queue.inFlight = ∅ := by
    apply Finset.eq_empty_of_forall_notMem
    intro f hf
    obtain ⟨worker, hworker⟩ := (h.valid.marked.mem_iff f).mp hf
    rw [hended worker] at hworker
    cases hworker
  generalize htrue : true = drained at hdrained
  rcases hdrained with hended | ⟨hstarted, hended⟩
  · exact ⟨List.isEmpty_iff.mp htrue.symm, hmarks hended⟩
  · have hleft := h.orderly.left hstarted 0 cfg.one_le_workers (hended 0)
    exact ⟨hleft.2, hmarks hended⟩

theorem Balanced.mem_takenNumbers_iff (h : l.Balanced cfg) {number : ℕ} :
    number ∈ takenNumbers cfg.workers l.taken ↔
      ∃ worker, l.taken worker = some number := by
  rw [mem_takenNumbers]
  constructor
  · rintro ⟨worker, -, htaken⟩
    exact ⟨worker, htaken⟩
  · rintro ⟨worker, htaken⟩
    obtain ⟨f, hf⟩ := (h.takes worker).mp (by rw [htaken]; rfl)
    exact ⟨worker, h.lt_workers hf, htaken⟩

theorem Balanced.accounted (h : l.Balanced cfg) : Accounted l := by
  have hnodup := Multiset.nodup_range l.system.queue.sequence
  rw [← h.tallied.numbers] at hnodup
  obtain ⟨-, hexits, hdisjoint⟩ := Multiset.nodup_add.mp hnodup
  refine ⟨h.balance, h.tallied.exited, Multiset.coe_nodup.mp hexits, ?_,
    h.empty_of_drained⟩
  intro number
  rw [h.tallied.enqueued, ← Multiset.mem_range, ← h.tallied.numbers,
    Multiset.mem_add, Multiset.mem_add, h.mem_takenNumbers_iff]
  constructor
  · intro hexit
    have hleft := Multiset.disjoint_right.mp hdisjoint hexit
    rw [Multiset.mem_add, h.mem_takenNumbers_iff, not_or] at hleft
    obtain ⟨hpending, htaken⟩ := hleft
    exact ⟨Or.inr hexit, hpending, fun worker hworker =>
      htaken ⟨worker, hworker⟩⟩
  · rintro ⟨(hpending | ⟨worker, hworker⟩) | hexit, hnot, hfree⟩
    · exact absurd hpending hnot
    · exact absurd hworker (hfree worker)
    · exact hexit

end Ledger

/-- Whatever the interleaving of methods and of workers that are not cancelled,
the queue accounts for every item that it accepted. -/
theorem every_item_accounted [DecidableEq F] (cfg : QueueSettings)
    (trace : List (QueueEvent F W))
    (hordinary : ∀ e ∈ trace, ∀ worker, e ≠ .interrupt worker) :
    (exec (Ledger.step cfg) (.initial : Ledger F W) trace).map Ledger.system =
        exec (QueueSystem.step cfg) .initial trace ∧
      EveryState (Ledger.step cfg) .initial trace Accounted := by
  refine ⟨Ledger.exec_system cfg trace, ?_⟩
  have hsteps : EveryStep (Ledger.step cfg) (.initial : Ledger F W) trace
      fun _ e => ∀ worker, e ≠ .interrupt worker :=
    EveryStep.of_forall_mem hordinary
  intro past hpast l hl
  exact (everyState_of_everyStep Ledger.balanced_initial
    (fun _ _ _ h hC hstep => h.step hC hstep) hsteps past hpast l hl).accounted

theorem every_item_accounted_closing :
    let cfg : QueueSettings := ⟨1, 1, by decide, by decide⟩
    let trace : List (QueueEvent ℕ ℕ) :=
      [.start, .enqueue 1 "info" 10, .enqueue 2 "critical" 20, .pop 0, .close,
        .finish 0 false, .clear 0, .leave 0]
    EveryState (Ledger.step cfg) .initial trace Accounted :=
  (every_item_accounted ⟨1, 1, by decide, by decide⟩
    [.start, .enqueue 1 "info" 10, .enqueue 2 "critical" 20, .pop 0, .close,
      .finish 0 false, .clear 0, .leave 0] (by simp)).2

end UyuniAgent.Queue
