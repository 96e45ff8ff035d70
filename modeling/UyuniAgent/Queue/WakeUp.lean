import UyuniAgent.Queue.Exclusivity
import UyuniAgent.Support.Condition

/-!
# Waiting on the queue's condition

The workers in `_next` and the callers of `wait_idle` wait on one condition
with different predicates.  `cancel` and the end of a handler notify all of
them, `enqueue` only the first, and that one need not be a worker.
-/

namespace UyuniAgent.Queue

open Transition

variable {F W : Type}

/-! ## Workers and callers -/

inductive Waiter
  | worker (worker : ℕ)
  | caller (caller : ℕ)
  deriving DecidableEq

def Waiter.isWorker : Waiter → Bool
  | .worker _ => true
  | .caller _ => false

structure WaitingSystem (F W : Type) where
  system : QueueSystem F W
  condition : Condition Waiter

inductive WaitingEvent (F W : Type)
  | start
  | enqueue (fingerprint : F) (severity : String) (payload : W)
  | cancel (fingerprint : F)
  /-- A worker in `_next` looks at the heap, at first or after a wake-up. -/
  | look (worker : ℕ)
  | finish (worker : ℕ) (returned : Bool)
  | clear (worker : ℕ)
  | waitIdle (caller : ℕ)
  /-- A caller that was woken looks again. -/
  | recheck (caller : ℕ)
  /-- The timeout of a caller ends. -/
  | giveUp (caller : ℕ)

/-- The predicate of `wait_idle`. -/
def InvestigationQueue.idle (q : InvestigationQueue F W) : Prop :=
  q.heap = [] ∧ q.inFlight = ∅

instance [DecidableEq F] (q : InvestigationQueue F W) : Decidable q.idle :=
  inferInstanceAs (Decidable (_ ∧ _))

namespace WaitingSystem

def initial : WaitingSystem F W := ⟨.initial, .initial⟩

variable [DecidableEq F]

/-- A caller returns from `wait_idle`, or sleeps. -/
def awaitIdle (s : WaitingSystem F W) (caller : ℕ) : WaitingSystem F W :=
  if s.system.queue.idle then s
  else { s with condition := s.condition.wait (.caller caller) }

/-- The queue and its workers take a step. -/
def move (cfg : QueueSettings) (s : WaitingSystem F W) (e : QueueEvent F W)
    (condition : Condition Waiter) : Option (WaitingSystem F W) :=
  (s.system.step cfg e).map fun system => ⟨system, condition⟩

def step (cfg : QueueSettings) (s : WaitingSystem F W) :
    WaitingEvent F W → Option (WaitingSystem F W)
  | .start => s.move cfg .start s.condition
  | .enqueue fingerprint severity payload =>
      let status :=
        (s.system.queue.enqueue cfg fingerprint severity payload).1.status
      s.move cfg (.enqueue fingerprint severity payload)
        (if status = .enqueued ∨ status = .coalesced then s.condition.notify
          else s.condition)
  | .cancel fingerprint =>
      let status := (s.system.queue.cancel fingerprint).1
      s.move cfg (.cancel fingerprint)
        (if status = .cancelled then s.condition.notifyAll else s.condition)
  | .look worker =>
      if .worker worker ∈ s.condition.sleeping then none
      else
        let condition := s.condition.resume (.worker worker)
        if s.system.queue.heap ≠ [] then s.move cfg (.pop worker) condition
        else if s.system.queue.closing then
          s.move cfg (.leave worker) condition
        else if s.system.workers worker = .waiting then
          some { s with condition := condition.wait (.worker worker) }
        else none
  | .finish worker returned =>
      s.move cfg (.finish worker returned) s.condition
  | .clear worker => s.move cfg (.clear worker) s.condition.notifyAll
  | .waitIdle caller =>
      if .caller caller ∈ s.condition.sleeping ∨
          .caller caller ∈ s.condition.notified then none
      else some (s.awaitIdle caller)
  | .recheck caller =>
      if .caller caller ∈ s.condition.notified then
        some (awaitIdle
          { s with condition := s.condition.resume (.caller caller) } caller)
      else none
  | .giveUp caller =>
      some { s with condition := s.condition.abandon (.caller caller) }

/-- An item is pending, a worker sleeps in `_next`, and no worker was
notified. -/
def Stalled (s : WaitingSystem F W) : Prop :=
  s.system.queue.heap ≠ [] ∧
    (∃ waiter ∈ s.condition.sleeping, waiter.isWorker = true) ∧
      ∀ waiter ∈ s.condition.notified, waiter.isWorker = false

instance (s : WaitingSystem F W) : Decidable s.Stalled :=
  inferInstanceAs (Decidable (_ ∧ _ ∧ _))

/-! ## How long the heap is -/

end WaitingSystem

section Length

variable [DecidableEq F] {cfg : QueueSettings} {q : InvestigationQueue F W}

/-- The incident will be one more pending item. -/
def InvestigationQueue.AddsItem (cfg : QueueSettings)
    (q : InvestigationQueue F W) (fingerprint : F) : Prop :=
  q.accepting = true ∧ fingerprint ∉ q.inFlight ∧
    q.pending.get? fingerprint = none ∧ q.heap.length < cfg.maxPending

instance (fingerprint : F) : Decidable (q.AddsItem cfg fingerprint) :=
  inferInstanceAs (Decidable (_ ∧ _ ∧ _ = none ∧ _))

theorem length_enqueue (cfg : QueueSettings) (hq : q.Consistent)
    (fingerprint : F) (severity : String) (payload : W) :
    (q.enqueue cfg fingerprint severity payload).2.heap.length ≤
        q.heap.length ∨
      q.AddsItem cfg fingerprint ∧
        (q.enqueue cfg fingerprint severity payload).1.status = .enqueued ∧
          (q.enqueue cfg fingerprint severity payload).2.heap.length =
            q.heap.length + 1 := by
  simp only [InvestigationQueue.enqueue]
  split
  · exact Or.inl le_rfl
  next hopen =>
  split
  · exact Or.inl le_rfl
  next hfree =>
  split
  next existing hexisting =>
    left
    have hkey := hq.pending_key fingerprint existing hexisting
    have hmem := (hq.mem_heap_iff existing).mpr (hkey ▸ hexisting)
    have hlength := InvestigationQueue.length_heapify_removeFromHeap hmem
    rw [InvestigationQueue.coalesce, (Heapq.heapPush_perm _ _ _).length_eq,
      List.length_cons, hlength]
  next hnew =>
  split
  next hroom =>
    right
    refine ⟨⟨by simpa using hopen, hfree, hnew, hroom⟩, rfl, ?_⟩
    rw [InvestigationQueue.append, (Heapq.heapPush_perm _ _ _).length_eq,
      List.length_cons]
  next hfull =>
  split
  next hnone =>
    have hone := cfg.one_le_maxPending
    exact absurd hnone (InvestigationQueue.worst?_isSome (by omega))
  next worst hworst =>
  left
  split
  · exact le_rfl
  · have hlength : (q.evict worst).heap.length + 1 = q.heap.length :=
      InvestigationQueue.length_heapify_removeFromHeap
        (InvestigationQueue.mem_of_worst? hworst)
    rw [InvestigationQueue.append, (Heapq.heapPush_perm _ _ _).length_eq,
      List.length_cons, hlength]

/-- `cancel` leaves the heap alone unless it reports a cancellation. -/
theorem heap_cancel {fingerprint : F}
    (h : (q.cancel fingerprint).1 ≠ .cancelled) :
    (q.cancel fingerprint).2.heap = q.heap := by
  simp only [InvestigationQueue.cancel] at h ⊢
  split
  next item hitem =>
    rw [hitem] at h
    exact absurd rfl h
  · split
    · rfl
    · rfl

theorem length_next {item : QueueItem F W} {q' : InvestigationQueue F W}
    (hnext : q.next = some (item, q')) :
    q.heap.length = q'.heap.length + 1 := by
  obtain ⟨heap, hpop, rfl⟩ := InvestigationQueue.exists_heapPop_of_next hnext
  rw [(Heapq.heapPop_perm hpop).length_eq]
  rfl

end Length

/-! ## The invariant -/

namespace WaitingSystem

variable [DecidableEq F] {cfg : QueueSettings} {s s' : WaitingSystem F W}

/-- No pending item waits for a worker that sleeps. -/
structure Awake (cfg : QueueSettings) (s : WaitingSystem F W) : Prop where
  valid : s.system.Valid cfg
  covers : s.condition.Covers Waiter.isWorker s.system.queue.heap.length

theorem awake_initial : (initial : WaitingSystem F W).Awake cfg where
  valid := QueueSystem.valid_initial
  covers := Condition.covers_zero

theorem Awake.not_stalled (h : s.Awake cfg) : ¬s.Stalled := by
  rintro ⟨hpending, hsleeping, hnone⟩
  obtain ⟨waiter, hwaiter, hkind⟩ := h.covers.exists_notified
    (List.length_pos_iff.mpr hpending) hsleeping
  rw [hnone waiter hwaiter] at hkind
  cases hkind

/-- When an incident becomes one more pending item, the notification of
`enqueue` reaches a worker if one sleeps, unless more workers are already
notified than items are pending. -/
def NotifiesWorker (cfg : QueueSettings) (s : WaitingSystem F W) :
    WaitingEvent F W → Prop
  | .enqueue fingerprint _ _ => s.system.queue.AddsItem cfg fingerprint →
      s.condition.Reaches Waiter.isWorker s.system.queue.heap.length
  | _ => True

instance (cfg : QueueSettings) (s : WaitingSystem F W)
    (e : WaitingEvent F W) : Decidable (s.NotifiesWorker cfg e) :=
  match e with
  | .enqueue _ _ _ => inferInstanceAs (Decidable (_ → _))
  | .start | .cancel _ | .look _ | .finish _ _ | .clear _ | .waitIdle _
  | .recheck _ | .giveUp _ => isTrue trivial

theorem notifiesWorker_of_test (s : WaitingSystem F W) (e : WaitingEvent F W)
    (h : decide (s.NotifiesWorker cfg e) = true) : s.NotifiesWorker cfg e :=
  of_decide_eq_true h

/-- The queue takes a step, and the waiters cover its heap. -/
theorem Awake.move (h : s.Awake cfg) {e : QueueEvent F W}
    {condition : Condition Waiter}
    (hcovers : ∀ system, s.system.step cfg e = some system →
      condition.Covers Waiter.isWorker system.queue.heap.length)
    (hstep : s.move cfg e condition = some s') : s'.Awake cfg := by
  obtain ⟨system, hsystem, rfl⟩ := Option.map_eq_some_iff.mp hstep
  exact ⟨h.valid.step hsystem, hcovers system hsystem⟩

theorem Awake.awaitIdle (h : s.Awake cfg) (caller : ℕ) :
    (s.awaitIdle caller).Awake cfg := by
  rw [WaitingSystem.awaitIdle]
  split
  · exact h
  · exact ⟨h.valid, h.covers.wait rfl⟩

/-- A worker that looks takes an item, or sleeps before an empty heap. -/
theorem Awake.look (h : s.Awake cfg) (worker : ℕ)
    (hstep : s.step cfg (.look worker) = some s') : s'.Awake cfg := by
  simp only [WaitingSystem.step] at hstep
  split at hstep
  · cases hstep
  split at hstep
  · refine h.move ?_ hstep
    intro system hsystem
    cases QueueSystem.step_eq_some_iff.mp hsystem with
    | pop hwaiting hnext =>
        have hcovers := h.covers
        rw [length_next hnext] at hcovers
        exact hcovers.resume
  next hempty =>
    have hnil : s.system.queue.heap = [] := not_not.mp hempty
    split at hstep
    · refine h.move ?_ hstep
      intro system hsystem
      cases QueueSystem.step_eq_some_iff.mp hsystem with
      | leave hwaiting hempty hclosing =>
          rw [QueueSystem.setWorker, hnil]
          exact Condition.covers_zero
    split at hstep
    · obtain rfl := Option.some.inj hstep
      refine ⟨h.valid, ?_⟩
      rw [hnil]
      exact Condition.covers_zero
    · cases hstep

theorem Awake.step {e : WaitingEvent F W} (h : s.Awake cfg)
    (hnotifies : s.NotifiesWorker cfg e) (hstep : s.step cfg e = some s') :
    s'.Awake cfg := by
  rcases e with _ | ⟨f, severity, payload⟩ | f | worker |
    ⟨worker, returned⟩ | worker | caller | caller | caller
  case start =>
    refine h.move ?_ hstep
    intro system hsystem
    cases QueueSystem.step_eq_some_iff.mp hsystem with
    | start hstarted hclosing => exact h.covers
  case enqueue =>
    refine h.move ?_ hstep
    intro system hsystem
    obtain rfl := Option.some.inj hsystem
    dsimp only
    rcases length_enqueue cfg h.valid.consistent f severity payload with
      hle | ⟨hadds, hstatus, hlength⟩
    · split
      · exact h.covers.notify.mono hle
      · exact h.covers.mono hle
    · rw [if_pos (Or.inl hstatus), hlength]
      exact h.covers.notify_succ (hnotifies hadds)
  case cancel =>
    refine h.move ?_ hstep
    intro system hsystem
    obtain rfl := Option.some.inj hsystem
    dsimp only
    split
    · exact Condition.covers_notifyAll
    next hstatus =>
      rw [heap_cancel hstatus]
      exact h.covers
  case look => exact h.look worker hstep
  case finish =>
    refine h.move ?_ hstep
    intro system hsystem
    cases QueueSystem.step_eq_some_iff.mp hsystem with
    | finish returned hhandling =>
        rcases returned with _ | _
        · exact h.covers
        · exact h.covers
  case clear =>
    exact h.move (fun _ _ => Condition.covers_notifyAll) hstep
  case waitIdle =>
    simp only [WaitingSystem.step] at hstep
    split at hstep
    · cases hstep
    · obtain rfl := Option.some.inj hstep
      exact h.awaitIdle caller
  case recheck =>
    simp only [WaitingSystem.step] at hstep
    split at hstep
    · obtain rfl := Option.some.inj hstep
      have hresumed : Awake cfg { s with
          condition := s.condition.resume (.caller caller) } :=
        ⟨h.valid, h.covers.resume_other rfl⟩
      exact hresumed.awaitIdle caller
    · cases hstep
  case giveUp =>
    obtain rfl := Option.some.inj hstep
    exact ⟨h.valid, h.covers.abandon rfl⟩

/-! ## Lost wake-ups -/

/-- A caller waits before the workers start, and the wake-up of the second
item goes to it while a worker sleeps. -/
theorem wakeUp_lost : ¬ ∀ (cfg : QueueSettings)
    (trace : List (WaitingEvent ℕ ℕ)),
    EveryState (step cfg) initial trace fun s => ¬s.Stalled := by
  intro hall
  have hstalled : ∃ s, exec (step ⟨2, 2, by decide, by decide⟩) initial
      [.enqueue 1 "warning" 10, .waitIdle 0, .start, .look 0, .look 1,
        .enqueue 2 "warning" 20] = some s ∧ s.Stalled :=
    ⟨_, rfl, by decide⟩
  obtain ⟨s, hs, hstalled⟩ := hstalled
  exact hall _ _ _ (List.prefix_refl _) s hs hstalled

/-- No wake-up is lost while each notification of a new item reaches a worker
that sleeps. -/
theorem no_wakeUp_lost (cfg : QueueSettings)
    (trace : List (WaitingEvent F W))
    (hnotifies : EveryStep (step cfg) initial trace (NotifiesWorker cfg)) :
    EveryState (step cfg) initial trace fun s => ¬s.Stalled := by
  intro past hpast s hs
  exact (everyState_of_everyStep awake_initial
    (fun _ _ _ h hC hstep => h.step hC hstep) hnotifies past hpast s
    hs).not_stalled

theorem no_wakeUp_lost_two_items :
    EveryState (step ⟨2, 2, by decide, by decide⟩)
      (initial : WaitingSystem ℕ ℕ)
      [.enqueue 1 "warning" 10, .start, .look 0, .look 1, .waitIdle 0,
        .enqueue 2 "warning" 20, .look 1] fun s => ¬s.Stalled :=
  no_wakeUp_lost ⟨2, 2, by decide, by decide⟩ _
    (everyStep_of_testSteps notifiesWorker_of_test (by decide +kernel))

end WaitingSystem

end UyuniAgent.Queue
