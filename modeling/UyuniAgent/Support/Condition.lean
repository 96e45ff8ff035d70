import Mathlib.Data.List.Count
import Mathlib.Order.Nat

/-!
# Condition variables

The waiters of a condition wake in the order in which they fell asleep, one for
each notification.  Waiters of one kind cover a number of tasks when, as long as
one of them sleeps, at least that many are notified and still to run.
-/

/-- The sleeping waiters, and those that are notified and still to run. -/
structure Condition (ω : Type*) where
  sleeping : List ω
  notified : List ω

namespace Condition

variable {ω : Type*}

def initial : Condition ω := ⟨[], []⟩

def wait (c : Condition ω) (waiter : ω) : Condition ω :=
  { c with sleeping := c.sleeping ++ [waiter] }

def notify (c : Condition ω) : Condition ω :=
  match c.sleeping with
  | [] => c
  | first :: rest => ⟨rest, c.notified ++ [first]⟩

def notifyAll (c : Condition ω) : Condition ω :=
  ⟨[], c.notified ++ c.sleeping⟩

/-- A notified waiter runs. -/
def resume [DecidableEq ω] (c : Condition ω) (waiter : ω) : Condition ω :=
  { c with notified := c.notified.erase waiter }

/-- A waiter is cancelled while it waits. -/
def abandon [DecidableEq ω] (c : Condition ω) (waiter : ω) : Condition ω :=
  ⟨c.sleeping.erase waiter, c.notified.erase waiter⟩

/-! ## Notified waiters of one kind -/

/-- While a waiter of the kind sleeps, at least `tasks` of them are to run. -/
def Covers (kind : ω → Bool) (tasks : ℕ) (c : Condition ω) : Prop :=
  (∃ waiter ∈ c.sleeping, kind waiter = true) →
    tasks ≤ c.notified.countP kind

/-- A notification meets a waiter of the kind, or one to spare is notified. -/
def Reaches (kind : ω → Bool) (tasks : ℕ) (c : Condition ω) : Prop :=
  (∀ waiter ∈ c.sleeping, kind waiter = false) ∨
    (∃ first ∈ c.sleeping.head?, kind first = true) ∨
      tasks < c.notified.countP kind

instance (kind : ω → Bool) (tasks : ℕ) (c : Condition ω) :
    Decidable (c.Reaches kind tasks) :=
  inferInstanceAs (Decidable (_ ∨ _ ∨ _))

variable {kind : ω → Bool} {tasks : ℕ} {c : Condition ω} {waiter : ω}

theorem covers_zero : Covers kind 0 c :=
  fun _ => Nat.zero_le _

theorem covers_notifyAll : Covers kind tasks c.notifyAll := by
  rintro ⟨waiter, hwaiter, -⟩
  cases hwaiter

theorem Covers.mono {fewer : ℕ} (h : Covers kind tasks c)
    (hle : fewer ≤ tasks) : Covers kind fewer c :=
  fun hsleeping => hle.trans (h hsleeping)

theorem Covers.notify (h : Covers kind tasks c) :
    Covers kind tasks c.notify := by
  rcases hsleeping : c.sleeping with _ | ⟨first, rest⟩
  · rwa [Condition.notify, hsleeping]
  · rw [Condition.notify, hsleeping]
    rintro ⟨waiter, hwaiter, hkind⟩
    have hold := h ⟨waiter, hsleeping ▸ List.mem_cons_of_mem first hwaiter,
      hkind⟩
    rw [List.countP_append]
    exact hold.trans (Nat.le_add_right _ _)

/-- A notification covers one task more when it reaches the kind. -/
theorem Covers.notify_succ (h : Covers kind tasks c)
    (hreaches : Reaches kind tasks c) : Covers kind (tasks + 1) c.notify := by
  rcases hsleeping : c.sleeping with _ | ⟨first, rest⟩
  · rw [Condition.notify, hsleeping]
    rintro ⟨waiter, hwaiter, -⟩
    rw [hsleeping] at hwaiter
    cases hwaiter
  · rw [Condition.notify, hsleeping]
    rintro ⟨waiter, hwaiter, hkind⟩
    have hmem : waiter ∈ c.sleeping :=
      hsleeping ▸ List.mem_cons_of_mem first hwaiter
    have hold := h ⟨waiter, hmem, hkind⟩
    rw [List.countP_append]
    rcases hreaches with hnone | ⟨front, hfront, hfrontKind⟩ | hspare
    · rw [hnone waiter hmem] at hkind
      cases hkind
    · rw [hsleeping, List.head?_cons, Option.mem_some_iff] at hfront
      rw [← hfront] at hfrontKind
      rw [List.countP_singleton, if_pos hfrontKind]
      omega
    · omega

theorem Covers.wait (h : Covers kind tasks c) (hother : kind waiter = false) :
    Covers kind tasks (c.wait waiter) := by
  rintro ⟨sleeper, hsleeper, hkind⟩
  rcases List.mem_append.mp hsleeper with hsleeper | hsleeper
  · exact h ⟨sleeper, hsleeper, hkind⟩
  · rw [List.mem_singleton.mp hsleeper, hother] at hkind
    cases hkind

/-- With a task left, a sleeping waiter of the kind is not alone. -/
theorem Covers.exists_notified (h : Covers kind tasks c) (htasks : 0 < tasks)
    (hsleeping : ∃ waiter ∈ c.sleeping, kind waiter = true) :
    ∃ waiter ∈ c.notified, kind waiter = true := by
  have hcount := h hsleeping
  exact List.countP_pos_iff.mp (by omega)

variable [DecidableEq ω]

/-- A waiter that runs takes over one task. -/
theorem Covers.resume (h : Covers kind (tasks + 1) c) :
    Covers kind tasks (c.resume waiter) := by
  intro hsleeping
  have hold := h hsleeping
  by_cases hmem : waiter ∈ c.notified
  · have hperm := (List.perm_cons_erase hmem).countP_eq kind
    rw [List.countP_cons] at hperm
    dsimp only [Condition.resume]
    split at hperm
    · omega
    · omega
  · dsimp only [Condition.resume]
    rw [List.erase_of_not_mem hmem]
    omega

theorem countP_erase_of_other (hother : kind waiter = false)
    (waiters : List ω) :
    (waiters.erase waiter).countP kind = waiters.countP kind := by
  by_cases hmem : waiter ∈ waiters
  · have hperm := (List.perm_cons_erase hmem).countP_eq kind
    rw [List.countP_cons_of_neg (by simp [hother])] at hperm
    exact hperm.symm
  · rw [List.erase_of_not_mem hmem]

theorem Covers.resume_other (h : Covers kind tasks c)
    (hother : kind waiter = false) : Covers kind tasks (c.resume waiter) := by
  intro hsleeping
  dsimp only [Condition.resume]
  rw [countP_erase_of_other hother]
  exact h hsleeping

theorem Covers.abandon (h : Covers kind tasks c) (hother : kind waiter = false) :
    Covers kind tasks (c.abandon waiter) := by
  rintro ⟨sleeper, hsleeper, hkind⟩
  dsimp only [Condition.abandon]
  rw [countP_erase_of_other hother]
  exact h ⟨sleeper, List.mem_of_mem_erase hsleeper, hkind⟩

end Condition
