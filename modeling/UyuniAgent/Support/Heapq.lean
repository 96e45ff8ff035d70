import Mathlib.Data.List.Basic

/-!
# Binary heaps in a list

The standard binary-heap operations on a list whose element at position `i`
has its children at `2 * i + 1` and `2 * i + 2`.  An element that is moved
into a hole step by step is here swapped step by step, which leaves the same
list.  Every operation is a rearrangement of its input.
-/

namespace Heapq

variable {α : Type*} (lt : α → α → Bool)

def swap (heap : List α) (i j : ℕ) : List α :=
  match heap[i]?, heap[j]? with
  | some a, some b => (heap.set i b).set j a
  | _, _ => heap

/-- Move the element at `pos` towards position `start` while it is smaller
than its parent.  Every round at least halves `pos`, so `pos` rounds do. -/
def siftDown (heap : List α) (start : ℕ) : ℕ → ℕ → List α
  | 0, _ => heap
  | rounds + 1, pos =>
      if start < pos then
        match heap[pos]?, heap[(pos - 1) / 2]? with
        | some item, some parent =>
            if lt item parent then
              siftDown (swap heap pos ((pos - 1) / 2)) start rounds
                ((pos - 1) / 2)
            else heap
        | _, _ => heap
      else heap

/-- The smaller child of `pos`, the right one when neither is smaller. -/
def smallerChild (heap : List α) (pos : ℕ) : ℕ :=
  match heap[2 * pos + 1]?, heap[2 * pos + 2]? with
  | some left, some right => if lt left right then 2 * pos + 1 else 2 * pos + 2
  | _, _ => 2 * pos + 1

/-- Move the element at `pos` down to a leaf along the smaller children, and
from there back up to its place. -/
def siftUp (heap : List α) (start : ℕ) : ℕ → ℕ → List α
  | 0, pos => siftDown lt heap start pos pos
  | rounds + 1, pos =>
      if 2 * pos + 1 < heap.length then
        let child := smallerChild lt heap pos
        siftUp (swap heap pos child) start rounds child
      else siftDown lt heap start pos pos

def heapPush (heap : List α) (item : α) : List α :=
  siftDown lt (heap ++ [item]) 0 heap.length heap.length

/-- The smallest element and the remaining heap. -/
def heapPop (heap : List α) : Option (α × List α) :=
  match heap.getLast?, heap.dropLast with
  | none, _ => none
  | some last, [] => some (last, [])
  | some last, first :: rest =>
      some (first, siftUp lt (last :: rest) 0 heap.length 0)

def heapify (heap : List α) : List α :=
  (List.range (heap.length / 2)).reverse.foldl
    (fun heap pos => siftUp lt heap pos heap.length pos) heap

/-! ## The operations rearrange -/

variable {lt}

theorem swap_perm (heap : List α) (i j : ℕ) : (swap heap i j).Perm heap := by
  rcases hi : heap[i]? with _ | a
  · simp [swap, hi]
  · rcases hj : heap[j]? with _ | b
    · simp [swap, hi, hj]
    · obtain ⟨hilt, rfl⟩ := List.getElem?_eq_some_iff.mp hi
      obtain ⟨hjlt, rfl⟩ := List.getElem?_eq_some_iff.mp hj
      simp only [swap, hi, hj]
      exact List.set_set_perm hilt hjlt

theorem siftDown_perm (heap : List α) (start rounds pos : ℕ) :
    (siftDown lt heap start rounds pos).Perm heap := by
  induction rounds generalizing heap pos with
  | zero => exact List.Perm.refl heap
  | succ rounds ih =>
      rw [siftDown]
      split
      · split
        · split
          · exact (ih _ _).trans (swap_perm heap _ _)
          · exact List.Perm.refl heap
        · exact List.Perm.refl heap
      · exact List.Perm.refl heap

theorem siftUp_perm (heap : List α) (start rounds pos : ℕ) :
    (siftUp lt heap start rounds pos).Perm heap := by
  induction rounds generalizing heap pos with
  | zero => exact siftDown_perm heap start pos pos
  | succ rounds ih =>
      rw [siftUp]
      split
      · exact (ih _ _).trans (swap_perm heap _ _)
      · exact siftDown_perm heap start pos pos

theorem heapPush_perm (lt : α → α → Bool) (heap : List α) (item : α) :
    (heapPush lt heap item).Perm (item :: heap) :=
  (siftDown_perm _ _ _ _).trans (List.perm_append_singleton item heap)

theorem heapify_perm (heap : List α) : (heapify lt heap).Perm heap := by
  have hfold : ∀ (positions : List ℕ) (h : List α),
      (positions.foldl (fun h pos => siftUp lt h pos h.length pos) h).Perm
        h := by
    intro positions
    induction positions with
    | nil => intro h; exact List.Perm.refl h
    | cons pos rest ih =>
        intro h
        exact (ih _).trans (siftUp_perm h pos h.length pos)
  exact hfold _ heap

theorem heapPop_eq_none {heap : List α} (h : heapPop lt heap = none) :
    heap = [] := by
  rcases List.eq_nil_or_concat heap with rfl | ⟨front, last, rfl⟩
  · rfl
  · rcases front with _ | ⟨first, front⟩
    · simp [heapPop] at h
    · simp only [heapPop, List.concat_eq_append, List.getLast?_append,
        List.getLast?_singleton, Option.some_or, List.dropLast_concat,
        reduceCtorEq] at h

/-- A pop takes one element out. -/
theorem heapPop_perm {heap rest : List α} {item : α}
    (h : heapPop lt heap = some (item, rest)) :
    heap.Perm (item :: rest) := by
  rcases List.eq_nil_or_concat heap with rfl | ⟨front, last, rfl⟩
  · simp [heapPop] at h
  · rcases front with _ | ⟨first, front⟩
    · simp only [heapPop, List.concat_eq_append, List.nil_append,
        List.getLast?_singleton, List.dropLast_singleton, Option.some.injEq,
        Prod.mk.injEq] at h
      obtain ⟨rfl, rfl⟩ := h
      exact List.Perm.refl _
    · simp only [heapPop, List.concat_eq_append, List.getLast?_append,
        List.getLast?_singleton, Option.some_or, List.dropLast_concat,
        Option.some.injEq, Prod.mk.injEq] at h
      obtain ⟨rfl, rfl⟩ := h
      have hlast : (first :: (front ++ [last])).Perm
          (first :: last :: front) :=
        (List.perm_append_singleton last front).cons first
      simpa using hlast.trans ((siftUp_perm _ 0 _ 0).symm.cons first)

end Heapq
