import UyuniAgent.Queue.Consistency
import UyuniAgent.Support.HeapOrder
import UyuniAgent.Support.Run

/-!
# The queue and its workers

Every interleaving of the methods of the queue with the steps of its workers.
A worker marks an incident as in flight when it pops it, and clears the mark
after its handler ended; `close` cancels the workers that outlast its grace
period, also while they wait for the lock to clear their mark.
-/

namespace UyuniAgent.Queue

open Transition

variable {F W : Type}

/-! ## Workers -/

inductive WorkerState (F : Type)
  | absent
  | waiting
  | handling (fingerprint : F)
  | clearing (fingerprint : F)
  /-- Cancelled while the handler ran; the mark is cleared before it ends. -/
  | interrupted (fingerprint : F)
  /-- Cancelled before the mark was cleared. -/
  | lost (fingerprint : F)
  deriving DecidableEq

/-- The incident whose mark the worker has set. -/
def WorkerState.held : WorkerState F → Option F
  | .absent => none
  | .waiting => none
  | .handling fingerprint => some fingerprint
  | .clearing fingerprint => some fingerprint
  | .interrupted fingerprint => some fingerprint
  | .lost fingerprint => some fingerprint

structure QueueSystem (F W : Type) where
  queue : InvestigationQueue F W
  workers : ℕ → WorkerState F
  started : Bool

inductive QueueEvent (F W : Type)
  | start
  | enqueue (fingerprint : F) (severity : String) (payload : W)
  | cancel (fingerprint : F)
  | pop (worker : ℕ)
  | leave (worker : ℕ)
  | finish (worker : ℕ) (returned : Bool)
  | clear (worker : ℕ)
  | close
  | interrupt (worker : ℕ)

namespace QueueSystem

def initial : QueueSystem F W := ⟨.initial, fun _ => .absent, false⟩

def setWorker (s : QueueSystem F W) (worker : ℕ) (state : WorkerState F) :
    QueueSystem F W :=
  { s with workers := Function.update s.workers worker state }

variable [DecidableEq F]

def step (cfg : QueueSettings) (s : QueueSystem F W) :
    QueueEvent F W → Option (QueueSystem F W)
  | .start =>
      if s.started ∨ s.queue.closing then none
      else some { s with
        workers := fun worker =>
          if worker < cfg.workers then .waiting else .absent
        started := true }
  | .enqueue fingerprint severity payload =>
      some { s with
        queue := (s.queue.enqueue cfg fingerprint severity payload).2 }
  | .cancel fingerprint =>
      some { s with queue := (s.queue.cancel fingerprint).2 }
  | .pop worker =>
      match s.workers worker, s.queue.next with
      | .waiting, some (item, queue) =>
          some ({ s with queue := queue }.setWorker worker
            (.handling item.fingerprint))
      | _, _ => none
  | .leave worker =>
      if s.workers worker = .waiting ∧ s.queue.heap.isEmpty ∧
          s.queue.closing then
        some (s.setWorker worker .absent)
      else none
  | .finish worker returned =>
      match s.workers worker with
      | .handling fingerprint =>
          some ({ s with queue := s.queue.recordHandled returned }.setWorker
            worker (.clearing fingerprint))
      | _ => none
  | .clear worker =>
      match s.workers worker with
      | .clearing fingerprint =>
          some ({ s with queue := s.queue.release fingerprint }.setWorker
            worker .waiting)
      | .interrupted fingerprint =>
          some ({ s with queue := s.queue.release fingerprint }.setWorker
            worker .absent)
      | _ => none
  | .close =>
      some { s with
        queue := { s.queue with accepting := false, closing := true } }
  | .interrupt worker =>
      if s.queue.closing then
        match s.workers worker with
        | .waiting => some (s.setWorker worker .absent)
        | .handling fingerprint =>
            some (s.setWorker worker (.interrupted fingerprint))
        | .clearing fingerprint =>
            some (s.setWorker worker (.lost fingerprint))
        | _ => none
      else none

/-- The steps of the system, each with what it needs. -/
inductive Moves (cfg : QueueSettings) (s : QueueSystem F W) :
    QueueEvent F W → QueueSystem F W → Prop
  | start (hstarted : s.started = false) (hclosing : s.queue.closing = false) :
      Moves cfg s .start { s with
        workers := fun worker =>
          if worker < cfg.workers then .waiting else .absent
        started := true }
  | enqueue (f : F) (severity : String) (payload : W) :
      Moves cfg s (.enqueue f severity payload)
        { s with queue := (s.queue.enqueue cfg f severity payload).2 }
  | cancel (f : F) :
      Moves cfg s (.cancel f) { s with queue := (s.queue.cancel f).2 }
  | pop {worker : ℕ} {item : QueueItem F W} {queue : InvestigationQueue F W}
      (hwaiting : s.workers worker = .waiting)
      (hnext : s.queue.next = some (item, queue)) :
      Moves cfg s (.pop worker) ({ s with queue := queue }.setWorker worker
        (.handling item.fingerprint))
  | leave {worker : ℕ} (hwaiting : s.workers worker = .waiting)
      (hempty : s.queue.heap = []) (hclosing : s.queue.closing = true) :
      Moves cfg s (.leave worker) (s.setWorker worker .absent)
  | finish {worker : ℕ} {f : F} (returned : Bool)
      (hhandling : s.workers worker = .handling f) :
      Moves cfg s (.finish worker returned)
        ({ s with queue := s.queue.recordHandled returned }.setWorker worker
          (.clearing f))
  | clear {worker : ℕ} {f : F} (hclearing : s.workers worker = .clearing f) :
      Moves cfg s (.clear worker)
        ({ s with queue := s.queue.release f }.setWorker worker .waiting)
  | clearInterrupted {worker : ℕ} {f : F}
      (hinterrupted : s.workers worker = .interrupted f) :
      Moves cfg s (.clear worker)
        ({ s with queue := s.queue.release f }.setWorker worker .absent)
  | close : Moves cfg s .close { s with
        queue := { s.queue with accepting := false, closing := true } }
  | interruptWaiting {worker : ℕ} (hclosing : s.queue.closing = true)
      (hwaiting : s.workers worker = .waiting) :
      Moves cfg s (.interrupt worker) (s.setWorker worker .absent)
  | interruptHandling {worker : ℕ} {f : F} (hclosing : s.queue.closing = true)
      (hhandling : s.workers worker = .handling f) :
      Moves cfg s (.interrupt worker) (s.setWorker worker (.interrupted f))
  | interruptClearing {worker : ℕ} {f : F} (hclosing : s.queue.closing = true)
      (hclearing : s.workers worker = .clearing f) :
      Moves cfg s (.interrupt worker) (s.setWorker worker (.lost f))

variable {cfg : QueueSettings} {s s' : QueueSystem F W} {e : QueueEvent F W}

theorem Moves.of_step (hstep : s.step cfg e = some s') : s.Moves cfg e s' := by
  rcases e with _ | ⟨f, severity, payload⟩ | f | worker | worker |
    ⟨worker, returned⟩ | worker | _ | worker
  case start =>
    simp only [step] at hstep
    split at hstep
    · cases hstep
    next hnot =>
      obtain rfl := Option.some.inj hstep
      rw [not_or, Bool.not_eq_true, Bool.not_eq_true] at hnot
      exact .start hnot.1 hnot.2
  case enqueue =>
    obtain rfl := Option.some.inj hstep
    exact .enqueue f severity payload
  case cancel =>
    obtain rfl := Option.some.inj hstep
    exact .cancel f
  case pop =>
    simp only [step] at hstep
    split at hstep
    next item queue hwaiting hnext =>
      obtain rfl := Option.some.inj hstep
      exact .pop hwaiting hnext
    · cases hstep
  case leave =>
    simp only [step] at hstep
    split at hstep
    next hleave =>
      obtain rfl := Option.some.inj hstep
      exact .leave hleave.1 (List.isEmpty_iff.mp hleave.2.1) hleave.2.2
    · cases hstep
  case finish =>
    simp only [step] at hstep
    split at hstep
    next f hhandling =>
      obtain rfl := Option.some.inj hstep
      exact .finish returned hhandling
    · cases hstep
  case clear =>
    simp only [step] at hstep
    split at hstep
    next f hclearing =>
      obtain rfl := Option.some.inj hstep
      exact .clear hclearing
    next f hinterrupted =>
      obtain rfl := Option.some.inj hstep
      exact .clearInterrupted hinterrupted
    · cases hstep
  case close =>
    obtain rfl := Option.some.inj hstep
    exact .close
  case interrupt =>
    simp only [step] at hstep
    split at hstep
    next hclosing =>
      split at hstep
      next hwaiting =>
        obtain rfl := Option.some.inj hstep
        exact .interruptWaiting hclosing hwaiting
      next f hhandling =>
        obtain rfl := Option.some.inj hstep
        exact .interruptHandling hclosing hhandling
      next f hclearing =>
        obtain rfl := Option.some.inj hstep
        exact .interruptClearing hclosing hclearing
      · cases hstep
    · cases hstep

/-- The relation has the steps of `step` and no others. -/
theorem step_eq_some_iff : s.step cfg e = some s' ↔ s.Moves cfg e s' := by
  refine ⟨Moves.of_step, fun hmoves => ?_⟩
  cases hmoves with
  | start hstarted hclosing => simp [step, hstarted, hclosing]
  | enqueue f severity payload => rfl
  | cancel f => rfl
  | pop hwaiting hnext => simp [step, hwaiting, hnext]
  | leave hwaiting hempty hclosing => simp [step, hwaiting, hempty, hclosing]
  | finish returned hhandling => simp [step, hhandling]
  | clear hclearing => simp [step, hclearing]
  | clearInterrupted hinterrupted => simp [step, hinterrupted]
  | close => rfl
  | interruptWaiting hclosing hwaiting => simp [step, hclosing, hwaiting]
  | interruptHandling hclosing hhandling => simp [step, hclosing, hhandling]
  | interruptClearing hclosing hclearing => simp [step, hclosing, hclearing]

end QueueSystem

/-! ## The heap and its size -/

theorem QueueItem.weakOrder : Heapq.WeakOrder (@QueueItem.lt F W)
    where
  asymm := by
    intro item other h
    simp only [QueueItem.lt, Bool.or_eq_true, Bool.and_eq_true,
      decide_eq_true_eq, Bool.or_eq_false_iff, Bool.and_eq_false_iff,
      decide_eq_false_iff_not] at h ⊢
    omega
  trans := by
    intro item other third h h'
    simp only [QueueItem.lt, Bool.or_eq_false_iff, Bool.and_eq_false_iff,
      decide_eq_false_iff_not] at h h' ⊢
    omega

/-- The heap is ordered and within its bound. -/
structure HeapValid (cfg : QueueSettings) (heap : List (QueueItem F W)) :
    Prop where
  ordered : Heapq.IsHeap QueueItem.lt heap
  length_le : heap.length ≤ cfg.maxPending

namespace InvestigationQueue

variable {cfg : QueueSettings} {q : InvestigationQueue F W}

theorem length_heapify_removeFromHeap {heap : List (QueueItem F W)}
    {item : QueueItem F W} (hitem : item ∈ heap) :
    (Heapq.heapify QueueItem.lt (removeFromHeap heap item)).length + 1 =
      heap.length := by
  have hself : item.sameOrder item = true := by simp [QueueItem.sameOrder]
  have herased := List.length_eraseP_of_mem
    (p := fun other : QueueItem F W => other.sameOrder item) hitem hself
  rw [(Heapq.heapify_perm _).length_eq, removeFromHeap, herased]
  have hpos := List.length_pos_of_mem hitem
  omega

/-- The queue without one of its items. -/
theorem heapValid_remove {heap : List (QueueItem F W)}
    {item : QueueItem F W} (h : HeapValid cfg heap) (hitem : item ∈ heap) :
    HeapValid cfg
      (Heapq.heapify QueueItem.lt (removeFromHeap heap item)) := by
  refine ⟨Heapq.heapify_isHeap QueueItem.weakOrder _, ?_⟩
  have hlength := length_heapify_removeFromHeap hitem
  have hle := h.length_le
  omega

theorem heapValid_push {heap : List (QueueItem F W)} (item : QueueItem F W)
    (h : HeapValid cfg heap) (hroom : heap.length < cfg.maxPending) :
    HeapValid cfg (Heapq.heapPush QueueItem.lt heap item) := by
  refine ⟨Heapq.heapPush_isHeap QueueItem.weakOrder h.ordered item, ?_⟩
  rw [(Heapq.heapPush_perm QueueItem.lt heap item).length_eq,
    List.length_cons]
  exact hroom

theorem worst?_isSome {heap : List (QueueItem F W)} (h : 0 < heap.length) :
    worst? heap ≠ none := by
  rcases heap with _ | ⟨item, rest⟩
  · simp at h
  · rw [worst?]
    rcases worst? rest with _ | other
    · simp
    · dsimp only
      split
      · simp
      · simp

variable [DecidableEq F]

theorem heapValid_enqueue {fingerprint : F} {severity : String} {payload : W}
    (hq : q.Consistent) (h : HeapValid cfg q.heap) :
    HeapValid cfg
      (q.enqueue cfg fingerprint severity payload).2.heap := by
  simp only [enqueue]
  split
  · exact h
  split
  · exact h
  split
  next existing hexisting =>
    have hkey := hq.pending_key fingerprint existing hexisting
    have hmem : existing ∈ q.heap :=
      (hq.mem_heap_iff existing).mpr (hkey ▸ hexisting)
    have hlength := length_heapify_removeFromHeap hmem
    have hle := h.length_le
    apply heapValid_push
    · exact heapValid_remove h hmem
    · omega
  next =>
    split
    next hroom => exact heapValid_push _ h hroom
    next hfull =>
      have hpositive : 0 < q.heap.length := by
        have hone := cfg.one_le_maxPending
        omega
      split
      next hnone => exact absurd hnone (worst?_isSome hpositive)
      next worst hworst =>
        split
        · exact h
        · have hmem := mem_of_worst? hworst
          have hlength : (q.evict worst).heap.length + 1 = q.heap.length :=
            length_heapify_removeFromHeap hmem
          have hle := h.length_le
          apply heapValid_push
          · exact heapValid_remove h hmem
          · omega

theorem heapValid_cancel {fingerprint : F} (hq : q.Consistent)
    (h : HeapValid cfg q.heap) : HeapValid cfg (q.cancel fingerprint).2.heap := by
  simp only [cancel]
  split
  next item hitem =>
    have hkey := hq.pending_key fingerprint item hitem
    exact heapValid_remove h ((hq.mem_heap_iff item).mpr (hkey ▸ hitem))
  · split
    · exact h
    · exact h

theorem heapValid_next {item : QueueItem F W} {q' : InvestigationQueue F W}
    (h : HeapValid cfg q.heap) (hnext : q.next = some (item, q')) :
    HeapValid cfg q'.heap := by
  obtain ⟨heap, hpop, rfl⟩ := exists_heapPop_of_next hnext
  refine ⟨Heapq.heapPop_isHeap QueueItem.weakOrder h.ordered hpop, ?_⟩
  have hlength := (Heapq.heapPop_perm hpop).length_eq
  have hle := h.length_le
  rw [List.length_cons] at hlength
  dsimp only
  omega

end InvestigationQueue

/-! ## The marks of the workers -/

/-- The marks are those of the workers, each of a worker of its own. -/
structure Marked (cfg : QueueSettings) (workers : ℕ → WorkerState F)
    (inFlight : Finset F) : Prop where
  mem_iff : ∀ f, f ∈ inFlight ↔ ∃ worker, (workers worker).held = some f
  unique : ∀ worker other f, (workers worker).held = some f →
    (workers other).held = some f → worker = other
  absent : ∀ worker, cfg.workers ≤ worker → workers worker = .absent

namespace Marked

variable {cfg : QueueSettings} {workers : ℕ → WorkerState F}
  {inFlight : Finset F} {worker : ℕ} {state : WorkerState F}

theorem lt_of_ne_absent (h : Marked cfg workers inFlight)
    (hne : workers worker ≠ .absent) : worker < cfg.workers := by
  by_contra hge
  exact hne (h.absent worker (by omega))

/-- A step that leaves the worker with the mark it had. -/
theorem keep (h : Marked cfg workers inFlight)
    (hne : workers worker ≠ .absent)
    (hheld : state.held = (workers worker).held) :
    Marked cfg (Function.update workers worker state) inFlight := by
  have hsame (other : ℕ) :
      (Function.update workers worker state other).held =
        (workers other).held := by
    by_cases hother : other = worker
    · rw [hother, Function.update_self, hheld]
    · rw [Function.update_of_ne hother]
  refine ⟨?_, ?_, ?_⟩
  · intro f
    simp only [hsame]
    exact h.mem_iff f
  · intro first second f hfirst hsecond
    rw [hsame] at hfirst hsecond
    exact h.unique first second f hfirst hsecond
  · intro other hother
    have hlt := h.lt_of_ne_absent hne
    rw [Function.update_of_ne (by omega)]
    exact h.absent other hother

variable [DecidableEq F] {f : F}

/-- A worker without a mark sets one. -/
theorem mark (h : Marked cfg workers inFlight)
    (hne : workers worker ≠ .absent) (hfree : (workers worker).held = none)
    (hnew : f ∉ inFlight) (hheld : state.held = some f) :
    Marked cfg (Function.update workers worker state)
      (insert f inFlight) := by
  have hothers (other : ℕ) : (workers other).held ≠ some f := by
    intro hother
    exact hnew ((h.mem_iff f).mpr ⟨other, hother⟩)
  refine ⟨?_, ?_, ?_⟩
  · intro g
    rw [Finset.mem_insert, h.mem_iff]
    constructor
    · rintro (rfl | ⟨other, hother⟩)
      · exact ⟨worker, by rw [Function.update_self, hheld]⟩
      · refine ⟨other, ?_⟩
        rw [Function.update_of_ne]
        · exact hother
        · rintro rfl
          rw [hfree] at hother
          cases hother
    · rintro ⟨other, hother⟩
      by_cases hself : other = worker
      · rw [hself, Function.update_self, hheld] at hother
        exact Or.inl (Option.some.inj hother).symm
      · rw [Function.update_of_ne hself] at hother
        exact Or.inr ⟨other, hother⟩
  · intro first second g hfirst hsecond
    by_cases hone : first = worker
    · by_cases htwo : second = worker
      · rw [hone, htwo]
      · rw [hone, Function.update_self, hheld] at hfirst
        rw [Function.update_of_ne htwo, ← hfirst] at hsecond
        exact absurd hsecond (hothers second)
    · by_cases htwo : second = worker
      · rw [htwo, Function.update_self, hheld] at hsecond
        rw [Function.update_of_ne hone, ← hsecond] at hfirst
        exact absurd hfirst (hothers first)
      · rw [Function.update_of_ne hone] at hfirst
        rw [Function.update_of_ne htwo] at hsecond
        exact h.unique first second g hfirst hsecond
  · intro other hother
    have hlt := h.lt_of_ne_absent hne
    rw [Function.update_of_ne (by omega)]
    exact h.absent other hother

/-- A worker clears its mark. -/
theorem clear (h : Marked cfg workers inFlight)
    (hset : (workers worker).held = some f) (hheld : state.held = none) :
    Marked cfg (Function.update workers worker state) (inFlight.erase f) := by
  have hne : workers worker ≠ .absent := by
    intro habsent
    rw [habsent] at hset
    cases hset
  refine ⟨?_, ?_, ?_⟩
  · intro g
    rw [Finset.mem_erase, h.mem_iff]
    constructor
    · rintro ⟨hgf, other, hother⟩
      refine ⟨other, ?_⟩
      rw [Function.update_of_ne]
      · exact hother
      · rintro rfl
        exact hgf (Option.some.inj (hother.symm.trans hset))
    · rintro ⟨other, hother⟩
      by_cases hself : other = worker
      · rw [hself, Function.update_self, hheld] at hother
        cases hother
      · rw [Function.update_of_ne hself] at hother
        refine ⟨?_, other, hother⟩
        rintro rfl
        exact hself (h.unique other worker g hother hset)
  · intro first second g hfirst hsecond
    have hheldBy (other : ℕ)
        (hother : (Function.update workers worker state other).held =
          some g) : (workers other).held = some g := by
      by_cases hself : other = worker
      · rw [hself, Function.update_self, hheld] at hother
        cases hother
      · rw [Function.update_of_ne hself] at hother
        exact hother
    exact h.unique first second g (hheldBy first hfirst)
      (hheldBy second hsecond)
  · intro other hother
    have hlt := h.lt_of_ne_absent hne
    rw [Function.update_of_ne (by omega)]
    exact h.absent other hother

/-- There are at most as many marks as workers. -/
theorem card_le (h : Marked cfg workers inFlight) :
    inFlight.card ≤ cfg.workers := by
  have hsubset : inFlight.image some ⊆
      (Finset.range cfg.workers).image fun worker => (workers worker).held := by
    intro mark hmark
    obtain ⟨f, hf, rfl⟩ := Finset.mem_image.mp hmark
    obtain ⟨worker, hworker⟩ := (h.mem_iff f).mp hf
    have hlt := h.lt_of_ne_absent (by
      intro habsent
      rw [habsent] at hworker
      cases hworker)
    exact Finset.mem_image.mpr ⟨worker, Finset.mem_range.mpr hlt, hworker⟩
  calc
    inFlight.card = (inFlight.image some).card :=
      (Finset.card_image_of_injective _ (Option.some_injective F)).symm
    _ ≤ ((Finset.range cfg.workers).image
          fun worker => (workers worker).held).card :=
      Finset.card_le_card hsubset
    _ ≤ (Finset.range cfg.workers).card := Finset.card_image_le
    _ = cfg.workers := Finset.card_range cfg.workers

end Marked

/-! ## The invariant -/

variable [DecidableEq F]

/-- What every operation on the queue and every step of a worker keeps. -/
structure QueueSystem.Valid (cfg : QueueSettings) (s : QueueSystem F W) :
    Prop where
  consistent : s.queue.Consistent
  heap : HeapValid cfg s.queue.heap
  marked : Marked cfg s.workers s.queue.inFlight
  absent_of_not_started : s.started = false → ∀ worker,
    s.workers worker = .absent

namespace QueueSystem

variable {cfg : QueueSettings} {s s' : QueueSystem F W}

theorem valid_initial : (initial : QueueSystem F W).Valid cfg where
  consistent := InvestigationQueue.consistent_initial
  heap := ⟨Heapq.isHeap_nil, Nat.zero_le _⟩
  marked := by
    refine ⟨?_, ?_, fun _ _ => rfl⟩
    · intro f
      simp [initial, InvestigationQueue.initial, WorkerState.held]
    · intro worker other f hworker
      cases hworker
  absent_of_not_started := fun _ _ => rfl

theorem Valid.started_of_ne_absent (h : s.Valid cfg) {worker : ℕ}
    (hne : s.workers worker ≠ .absent) : s.started = true := by
  by_contra hnot
  exact hne (h.absent_of_not_started (by simpa using hnot) worker)

/-- A worker moves on, and the queue keeps its items. -/
theorem Valid.setWorker (h : s.Valid cfg) {queue : InvestigationQueue F W}
    {worker : ℕ} {state : WorkerState F}
    (hne : s.workers worker ≠ .absent) (hq : queue.Consistent)
    (hheap : HeapValid cfg queue.heap)
    (hmarked : Marked cfg (Function.update s.workers worker state)
      queue.inFlight) :
    ({ s with queue := queue }.setWorker worker state).Valid cfg where
  consistent := hq
  heap := hheap
  marked := hmarked
  absent_of_not_started := by
    intro hnot
    rw [QueueSystem.setWorker, h.started_of_ne_absent hne] at hnot
    cases hnot

/-- A worker moves on with the item it holds, or with none. -/
theorem Valid.moveWorker (h : s.Valid cfg) {worker : ℕ}
    {state : WorkerState F} (hne : s.workers worker ≠ .absent)
    (hheld : state.held = (s.workers worker).held) :
    (s.setWorker worker state).Valid cfg :=
  h.setWorker hne h.consistent h.heap (h.marked.keep hne hheld)

/-- The counters of the handled items are free to change. -/
theorem Valid.recordHandled (h : s.Valid cfg) (returned : Bool) :
    ({ s with queue := s.queue.recordHandled returned }).Valid cfg := by
  rcases returned with _ | _
  · exact ⟨h.consistent, h.heap, h.marked, h.absent_of_not_started⟩
  · exact ⟨h.consistent, h.heap, h.marked, h.absent_of_not_started⟩

/-- The workers start with nothing in flight. -/
theorem Valid.start (h : s.Valid cfg) (hfresh : s.started = false) :
    ({ s with
      workers := fun worker =>
        if worker < cfg.workers then .waiting else .absent
      started := true }).Valid cfg := by
  have habsent := h.absent_of_not_started hfresh
  have hempty : s.queue.inFlight = ∅ := by
    apply Finset.eq_empty_of_forall_notMem
    intro f hf
    obtain ⟨worker, hworker⟩ := (h.marked.mem_iff f).mp hf
    rw [habsent worker] at hworker
    cases hworker
  have hheld (worker : ℕ) : (if worker < cfg.workers then
      (WorkerState.waiting : WorkerState F) else .absent).held = none := by
    split
    · rfl
    · rfl
  refine ⟨h.consistent, h.heap, ⟨?_, ?_, ?_⟩, fun hnot => nomatch hnot⟩
  · intro f
    simp [hempty, hheld]
  · intro worker other f hworker
    rw [hheld] at hworker
    cases hworker
  · intro worker hworker
    exact if_neg (by omega)

theorem Valid.enqueue (h : s.Valid cfg) (f : F) (severity : String)
    (payload : W) :
    ({ s with queue :=
        (s.queue.enqueue cfg f severity payload).2 }).Valid cfg := by
  refine ⟨h.consistent.enqueue,
    InvestigationQueue.heapValid_enqueue h.consistent h.heap, ?_,
    h.absent_of_not_started⟩
  dsimp only
  rw [InvestigationQueue.inFlight_enqueue]
  exact h.marked

theorem Valid.cancel (h : s.Valid cfg) (f : F) :
    ({ s with queue := (s.queue.cancel f).2 }).Valid cfg := by
  refine ⟨h.consistent.cancel,
    InvestigationQueue.heapValid_cancel h.consistent h.heap, ?_,
    h.absent_of_not_started⟩
  dsimp only
  rw [InvestigationQueue.inFlight_cancel]
  exact h.marked

/-- A waiting worker pops the next item and marks it. -/
theorem Valid.pop (h : s.Valid cfg) {worker : ℕ} {item : QueueItem F W}
    {queue : InvestigationQueue F W}
    (hwaiting : s.workers worker = .waiting)
    (hnext : s.queue.next = some (item, queue)) :
    ({ s with queue := queue }.setWorker worker
      (.handling item.fingerprint)).Valid cfg := by
  obtain ⟨hq, -, hfree⟩ := h.consistent.next hnext
  have hne : s.workers worker ≠ .absent := by simp [hwaiting]
  refine h.setWorker hne hq (InvestigationQueue.heapValid_next h.heap hnext) ?_
  rw [(InvestigationQueue.next_eq_some hnext).1]
  exact h.marked.mark hne (by rw [hwaiting]; rfl) hfree rfl

/-- A worker clears the mark of the item it held. -/
theorem Valid.clear (h : s.Valid cfg) {worker : ℕ} {f : F}
    {state : WorkerState F} (hne : s.workers worker ≠ .absent)
    (hheld : (s.workers worker).held = some f) (hstate : state.held = none) :
    ({ s with queue := s.queue.release f }.setWorker worker state).Valid cfg :=
  h.setWorker hne h.consistent.release h.heap (h.marked.clear hheld hstate)

theorem Valid.step {e : QueueEvent F W} (h : s.Valid cfg)
    (hstep : s.step cfg e = some s') : s'.Valid cfg := by
  cases step_eq_some_iff.mp hstep with
  | start hstarted hclosing => exact h.start hstarted
  | enqueue f severity payload => exact h.enqueue f severity payload
  | cancel f => exact h.cancel f
  | pop hwaiting hnext => exact h.pop hwaiting hnext
  | leave hwaiting hempty hclosing =>
      exact h.moveWorker (by simp [hwaiting]) (by rw [hwaiting]; rfl)
  | finish returned hhandling =>
      apply (h.recordHandled returned).moveWorker
      · simp [hhandling]
      · dsimp only
        rw [hhandling]
        rfl
  | clear hclearing =>
      exact h.clear (by simp [hclearing]) (by rw [hclearing]; rfl) rfl
  | clearInterrupted hinterrupted =>
      exact h.clear (by simp [hinterrupted]) (by rw [hinterrupted]; rfl) rfl
  | close => exact ⟨h.consistent, h.heap, h.marked, h.absent_of_not_started⟩
  | interruptWaiting hclosing hwaiting =>
      exact h.moveWorker (by simp [hwaiting]) (by rw [hwaiting]; rfl)
  | interruptHandling hclosing hhandling =>
      exact h.moveWorker (by simp [hhandling]) (by rw [hhandling]; rfl)
  | interruptClearing hclosing hclearing =>
      exact h.moveWorker (by simp [hclearing]) (by rw [hclearing]; rfl)

/-! ## Exclusivity -/

/-- The heap and `_pending` hold the same items, no incident is in two places
or with two workers, the bounds hold, and the heap is one. -/
structure Exclusive (cfg : QueueSettings) (s : QueueSystem F W) : Prop where
  same_items : (s.queue.heap.map fun item =>
    (item.fingerprint, item)).Perm s.queue.pending.entries
  not_pending : ∀ f ∈ s.queue.inFlight, s.queue.pending.get? f = none
  one_worker : ∀ worker other f, (s.workers worker).held = some f →
    (s.workers other).held = some f → worker = other
  pending_le : s.queue.heap.length ≤ cfg.maxPending
  inFlight_le : s.queue.inFlight.card ≤ cfg.workers
  sequence_nodup : (s.queue.heap.map QueueItem.sequence).Nodup
  heap_ordered : Heapq.IsHeap QueueItem.lt s.queue.heap

theorem same_items_of_consistent
    {q : InvestigationQueue F W} (h : q.Consistent) :
    (q.heap.map fun item => (item.fingerprint, item)).Perm
      q.pending.entries := by
  have hheap : (q.heap.map fun item => (item.fingerprint, item)).Nodup := by
    apply List.Nodup.of_map (fun entry => entry.2.sequence)
    rw [List.map_map]
    exact h.sequence_nodup
  have hpending : q.pending.entries.Nodup :=
    List.Nodup.of_map Prod.fst q.pending.nodup
  rw [List.perm_ext_iff_of_nodup hheap hpending]
  rintro ⟨f, item⟩
  rw [← OrderedDict.get?_eq_some_iff, List.mem_map]
  constructor
  · rintro ⟨other, hother, heq⟩
    obtain ⟨rfl, rfl⟩ := Prod.mk.inj heq
    exact (h.mem_heap_iff other).mp hother
  · intro hitem
    obtain rfl := h.pending_key f item hitem
    exact ⟨item, (h.mem_heap_iff item).mpr hitem, rfl⟩

theorem Valid.exclusive (h : s.Valid cfg) : s.Exclusive cfg where
  same_items := same_items_of_consistent h.consistent
  not_pending := h.consistent.not_pending
  one_worker := h.marked.unique
  pending_le := h.heap.length_le
  inFlight_le := h.marked.card_le
  sequence_nodup := h.consistent.sequence_nodup
  heap_ordered := h.heap.ordered

/-- Whatever the interleaving, the queue stays exclusive and bounded. -/
theorem exclusive_always (cfg : QueueSettings)
    (trace : List (QueueEvent F W)) :
    EveryState (QueueSystem.step cfg) initial trace (Exclusive cfg) := by
  intro past _ s hs
  exact (exec_invariant_always valid_initial
    (fun _ _ _ h hstep => h.step hstep) hs).exclusive

end QueueSystem

end UyuniAgent.Queue
