import Mathlib.Order.Nat
import UyuniAgent.Support.Heapq

/-!
# The order of a binary heap

Every operation on a binary heap leaves a list in which no element is smaller
than its parent.  An element that is moved up or down leaves a gap in the
order, which `UpReady` and `DownReady` describe; the order from a position on
serves the construction of a heap from its end.
-/

namespace Heapq

variable {α : Type*} {lt : α → α → Bool}

/-- A comparison in which "not smaller" is a total preorder. -/
structure WeakOrder (lt : α → α → Bool) : Prop where
  asymm : ∀ a b, lt a b = true → lt b a = false
  trans : ∀ a b c, lt b a = false → lt c b = false → lt c a = false

/-! ## Positions -/

/-- A position in the tree below another one. -/
inductive InSubtree (start : ℕ) : ℕ → Prop
  | root : InSubtree start start
  | left {pos : ℕ} (h : InSubtree start pos) : InSubtree start (2 * pos + 1)
  | right {pos : ℕ} (h : InSubtree start pos) : InSubtree start (2 * pos + 2)

namespace InSubtree

theorem le {start pos : ℕ} (h : InSubtree start pos) : start ≤ pos := by
  induction h with
  | root => exact le_refl start
  | left _ ih => omega
  | right _ ih => omega

theorem parent {start pos : ℕ} (h : InSubtree start pos)
    (hlt : start < pos) : InSubtree start ((pos - 1) / 2) := by
  rcases h with _ | @⟨pos, h⟩ | @⟨pos, h⟩
  · exact absurd hlt (lt_irrefl start)
  · have hparent : (2 * pos + 1 - 1) / 2 = pos := by omega
    rw [hparent]
    exact h
  · have hparent : (2 * pos + 2 - 1) / 2 = pos := by omega
    rw [hparent]
    exact h

theorem of_zero (pos : ℕ) : InSubtree 0 pos := by
  induction pos using Nat.strongRecOn with
  | _ pos ih =>
      rcases Nat.eq_zero_or_pos pos with rfl | hpos
      · exact root
      · have hparent := ih ((pos - 1) / 2) (by omega)
        have hsides : pos = 2 * ((pos - 1) / 2) + 1 ∨
            pos = 2 * ((pos - 1) / 2) + 2 := by omega
        rcases hsides with hleft | hright
        · rw [hleft]
          exact hparent.left
        · rw [hright]
          exact hparent.right

end InSubtree

/-! ## Order between positions -/

/-- The element at `i` is not greater than the one at `j`. -/
def NotAfter (lt : α → α → Bool) (heap : List α) (i j : ℕ) : Prop :=
  ∀ a b, heap[i]? = some a → heap[j]? = some b → lt b a = false

theorem NotAfter.trans (horder : WeakOrder lt) {heap : List α} {i j k : ℕ}
    (hj : j < heap.length) (hij : NotAfter lt heap i j)
    (hjk : NotAfter lt heap j k) : NotAfter lt heap i k := by
  intro a c ha hc
  have hb : heap[j]? = some heap[j] := List.getElem?_eq_getElem hj
  exact horder.trans a heap[j] c (hij a _ ha hb) (hjk _ c hb hc)

theorem NotAfter.of_le_length {heap : List α} {i j : ℕ}
    (hj : heap.length ≤ j) : NotAfter lt heap i j := by
  intro a b _ hb
  rw [List.getElem?_eq_none hj] at hb
  cases hb

theorem NotAfter.congr {heap heap' : List α} {i j i' j' : ℕ}
    (h : NotAfter lt heap i j) (hi : heap'[i']? = heap[i]?)
    (hj : heap'[j']? = heap[j]?) : NotAfter lt heap' i' j' := by
  intro a b ha hb
  exact h a b (hi ▸ ha) (hj ▸ hb)

theorem getElem?_swap {heap : List α} {i j : ℕ} (hi : i < heap.length)
    (hj : j < heap.length) (k : ℕ) :
    (swap heap i j)[k]? =
      if k = j then heap[i]? else if k = i then heap[j]? else heap[k]? := by
  simp only [swap, List.getElem?_eq_getElem hi, List.getElem?_eq_getElem hj]
  rw [List.getElem?_set, List.length_set, List.getElem?_set]
  by_cases hkj : k = j
  · simp [hkj, hj]
  · by_cases hki : k = i
    · subst hki
      simp [hi, hkj, Ne.symm hkj]
    · simp [hkj, hki, Ne.symm hkj, Ne.symm hki]

@[simp] theorem length_swap (heap : List α) (i j : ℕ) :
    (swap heap i j).length = heap.length :=
  (swap_perm heap i j).length_eq

/-! ## Heaps -/

/-- No element below a position from `start` on is smaller than its parent. -/
def IsHeapFrom (lt : α → α → Bool) (start : ℕ) (heap : List α) : Prop :=
  ∀ i, 0 < i → start ≤ (i - 1) / 2 → NotAfter lt heap ((i - 1) / 2) i

def IsHeap (lt : α → α → Bool) (heap : List α) : Prop :=
  IsHeapFrom lt 0 heap

theorem isHeap_nil : IsHeap lt ([] : List α) :=
  fun _ _ _ => NotAfter.of_le_length (Nat.zero_le _)

/-- The order holds but between the element at `pos` and its parent. -/
structure UpReady (lt : α → α → Bool) (heap : List α) (start pos : ℕ) :
    Prop where
  ordered : ∀ i, 0 < i → start ≤ (i - 1) / 2 → i ≠ pos →
    NotAfter lt heap ((i - 1) / 2) i
  children : ∀ i, 0 < i → (i - 1) / 2 = pos → start < pos →
    NotAfter lt heap ((pos - 1) / 2) i

/-- The order holds but between the element at `pos` and its neighbours. -/
structure DownReady (lt : α → α → Bool) (heap : List α) (start pos : ℕ) :
    Prop where
  ordered : ∀ i, 0 < i → start ≤ (i - 1) / 2 → i ≠ pos → (i - 1) / 2 ≠ pos →
    NotAfter lt heap ((i - 1) / 2) i
  children : ∀ i, 0 < i → (i - 1) / 2 = pos → start < pos →
    NotAfter lt heap ((pos - 1) / 2) i

/-! ## Moving up -/

theorem UpReady.finish {heap : List α} {start pos : ℕ}
    (h : UpReady lt heap start pos)
    (hpos : start < pos → NotAfter lt heap ((pos - 1) / 2) pos) :
    IsHeapFrom lt start heap := by
  intro i hi hstart
  by_cases hhole : i = pos
  · subst hhole
    exact hpos (by omega)
  · exact h.ordered i hi hstart hhole

theorem UpReady.move (horder : WeakOrder lt) {heap : List α} {start pos : ℕ}
    (h : UpReady lt heap start pos) (htree : InSubtree start pos)
    (hlt : start < pos) (hpos : pos < heap.length) {item parent : α}
    (hitem : heap[pos]? = some item)
    (hparent : heap[(pos - 1) / 2]? = some parent)
    (hless : lt item parent = true) :
    UpReady lt (swap heap pos ((pos - 1) / 2)) start ((pos - 1) / 2) := by
  have hup : (pos - 1) / 2 < pos := by omega
  have htop : start ≤ (pos - 1) / 2 := (htree.parent hlt).le
  have hget := getElem?_swap hpos (hup.trans hpos)
  -- the element that moves up is not greater than the one it replaces
  have hbelow (i : ℕ) (hi : NotAfter lt heap ((pos - 1) / 2) i) :
      NotAfter lt heap pos i := by
    intro a b ha hb
    obtain rfl : item = a := Option.some.inj (hitem.symm.trans ha)
    exact horder.trans item parent b (horder.asymm item parent hless)
      (hi parent b hparent hb)
  constructor
  · intro i hi hstart hne
    by_cases hself : i = pos
    · subst hself
      have hturned : NotAfter lt heap i ((i - 1) / 2) := by
        intro a b ha hb
        obtain rfl : item = a := Option.some.inj (hitem.symm.trans ha)
        obtain rfl : parent = b := Option.some.inj (hparent.symm.trans hb)
        exact horder.asymm item parent hless
      exact hturned.congr (by simp [hget]) (by simp [hget, hup.ne'])
    · have hkept : (swap heap pos ((pos - 1) / 2))[i]? = heap[i]? := by
        rw [hget, if_neg hne, if_neg hself]
      by_cases hsibling : (i - 1) / 2 = (pos - 1) / 2
      · refine NotAfter.congr (i := pos) (j := i) (hbelow i ?_)
          (by rw [hsibling, hget, if_pos rfl]) hkept
        rw [← hsibling]
        exact h.ordered i hi hstart hself
      · by_cases hchild : (i - 1) / 2 = pos
        · refine NotAfter.congr (h.children i hi hchild hlt) ?_ hkept
          rw [hget, if_neg hsibling, if_pos hchild]
        · refine NotAfter.congr (h.ordered i hi hstart hself) ?_ hkept
          rw [hget, if_neg hsibling, if_neg hchild]
  · intro i hi hparentEq hlt'
    have hgrand : ((pos - 1) / 2 - 1) / 2 < (pos - 1) / 2 := by omega
    have hgrandTop : start ≤ ((pos - 1) / 2 - 1) / 2 :=
      ((htree.parent hlt).parent hlt').le
    have habove : NotAfter lt heap (((pos - 1) / 2 - 1) / 2)
        ((pos - 1) / 2) :=
      h.ordered ((pos - 1) / 2) (by omega) hgrandTop hup.ne
    have hkept : (swap heap pos ((pos - 1) / 2))[
        ((pos - 1) / 2 - 1) / 2]? = heap[((pos - 1) / 2 - 1) / 2]? := by
      rw [hget, if_neg hgrand.ne, if_neg (hgrand.trans hup).ne]
    by_cases hself : i = pos
    · subst hself
      refine NotAfter.congr habove hkept ?_
      rw [hget, if_neg hup.ne', if_pos rfl]
    · have hbeside : NotAfter lt heap ((pos - 1) / 2) i := by
        rw [← hparentEq]
        exact h.ordered i hi (by omega) hself
      refine NotAfter.congr
        (habove.trans horder (hup.trans hpos) hbeside) hkept ?_
      rw [hget, if_neg (by omega), if_neg hself]

theorem siftDown_isHeapFrom (horder : WeakOrder lt) {heap : List α}
    {start rounds pos : ℕ} (h : UpReady lt heap start pos)
    (htree : InSubtree start pos) (hpos : pos < heap.length)
    (hrounds : pos ≤ rounds) :
    IsHeapFrom lt start (siftDown lt heap start rounds pos) := by
  induction rounds generalizing heap pos with
  | zero => exact h.finish fun hlt => by omega
  | succ rounds ih =>
      have hitem : heap[pos]? = some heap[pos] :=
        List.getElem?_eq_getElem hpos
      have hparent : heap[(pos - 1) / 2]? = some heap[(pos - 1) / 2] :=
        List.getElem?_eq_getElem (by omega)
      rw [siftDown]
      split
      next hlt =>
        rw [hitem, hparent]
        dsimp only
        split
        next hless =>
          apply ih (h.move horder htree hlt hpos hitem hparent hless)
            (htree.parent hlt)
          · rw [length_swap]
            omega
          · omega
        next hnot =>
          apply h.finish
          intro _ a b ha hb
          obtain rfl := Option.some.inj (hparent.symm.trans ha)
          obtain rfl := Option.some.inj (hitem.symm.trans hb)
          exact Bool.not_eq_true _ ▸ hnot
      next hge => exact h.finish fun hlt => absurd hlt hge

/-! ## Moving down -/

theorem smallerChild_eq (heap : List α) (pos : ℕ) :
    smallerChild lt heap pos = 2 * pos + 1 ∨
      (smallerChild lt heap pos = 2 * pos + 2 ∧
        2 * pos + 2 < heap.length) := by
  rw [smallerChild]
  split
  next left right _ hright =>
    split
    · exact Or.inl rfl
    · exact Or.inr ⟨rfl, (List.getElem?_eq_some_iff.mp hright).1⟩
  · exact Or.inl rfl

/-- The chosen child is not greater than the other one. -/
theorem smallerChild_notAfter (horder : WeakOrder lt) {heap : List α}
    {pos i : ℕ} (hi : 0 < i) (hchild : (i - 1) / 2 = pos)
    (hother : i ≠ smallerChild lt heap pos) :
    NotAfter lt heap (smallerChild lt heap pos) i := by
  have hcases : i = 2 * pos + 1 ∨ i = 2 * pos + 2 := by omega
  rw [smallerChild] at hother ⊢
  split
  next left right hleft hright =>
    rw [hleft, hright] at hother
    dsimp only at hother
    split
    next hless =>
      rw [if_pos hless] at hother
      obtain rfl : i = 2 * pos + 2 := hcases.resolve_left hother
      intro a b ha hb
      obtain rfl := Option.some.inj (hleft.symm.trans ha)
      obtain rfl := Option.some.inj (hright.symm.trans hb)
      exact horder.asymm _ _ hless
    next hnot =>
      rw [if_neg hnot] at hother
      obtain rfl : i = 2 * pos + 1 := hcases.resolve_right hother
      intro a b ha hb
      obtain rfl := Option.some.inj (hright.symm.trans ha)
      obtain rfl := Option.some.inj (hleft.symm.trans hb)
      exact Bool.not_eq_true _ ▸ hnot
  next hnone =>
    intro a b ha hb
    rcases hcases with rfl | rfl
    · split at hother
      next left right hleft hright => exact absurd hright (hnone _ _ hleft)
      · exact absurd rfl hother
    · exact absurd hb (hnone _ _ ha)

theorem DownReady.move (horder : WeakOrder lt) {heap : List α}
    {start pos : ℕ} (h : DownReady lt heap start pos)
    (htree : InSubtree start pos) (hleft : 2 * pos + 1 < heap.length) :
    DownReady lt (swap heap pos (smallerChild lt heap pos)) start
      (smallerChild lt heap pos) := by
  have hother {i : ℕ} (hi : 0 < i) (hchild : (i - 1) / 2 = pos)
      (hne : i ≠ smallerChild lt heap pos) :=
    smallerChild_notAfter horder hi hchild hne
  have hcases := @smallerChild_eq α lt heap pos
  generalize smallerChild lt heap pos = child at hother hcases ⊢
  have hup : (child - 1) / 2 = pos := by omega
  have hchild : child < heap.length := by omega
  have hstart : start ≤ pos := htree.le
  have hget := getElem?_swap (show pos < heap.length by omega) hchild
  have hhole : (swap heap pos child)[pos]? = heap[child]? := by
    rw [hget, if_neg (by omega), if_pos rfl]
  constructor
  · intro i hi htop hne hparent
    by_cases hself : i = pos
    · subst hself
      refine NotAfter.congr (h.children child (by omega) hup (by omega)) ?_
        hhole
      rw [hget, if_neg (by omega), if_neg (by omega)]
    · have hkept : (swap heap pos child)[i]? = heap[i]? := by
        rw [hget, if_neg hne, if_neg hself]
      by_cases hbelow : (i - 1) / 2 = pos
      · refine NotAfter.congr (hother hi hbelow hne) ?_ hkept
        rw [hbelow]
        exact hhole
      · refine NotAfter.congr (h.ordered i hi htop hself hbelow) ?_ hkept
        rw [hget, if_neg hparent, if_neg hbelow]
  · intro i hi hbelow _
    have hchildOrdered : NotAfter lt heap child i := by
      rw [← hbelow]
      exact h.ordered i hi (by omega) (by omega) (by omega)
    refine NotAfter.congr hchildOrdered ?_ ?_
    · rw [hup]
      exact hhole
    · rw [hget, if_neg (by omega), if_neg (by omega)]

theorem DownReady.upReady {heap : List α} {start pos : ℕ}
    (h : DownReady lt heap start pos) (hleaf : heap.length ≤ 2 * pos + 1) :
    UpReady lt heap start pos := by
  refine ⟨?_, h.children⟩
  intro i hi hstart hne
  by_cases hchild : (i - 1) / 2 = pos
  · exact NotAfter.of_le_length (by omega)
  · exact h.ordered i hi hstart hne hchild

theorem siftUp_isHeapFrom (horder : WeakOrder lt) {heap : List α}
    {start rounds pos : ℕ} (h : DownReady lt heap start pos)
    (htree : InSubtree start pos) (hpos : pos < heap.length)
    (hrounds : heap.length ≤ pos + rounds) :
    IsHeapFrom lt start (siftUp lt heap start rounds pos) := by
  induction rounds generalizing heap pos with
  | zero => omega
  | succ rounds ih =>
      rw [siftUp]
      split
      next hleft =>
        have hcases := @smallerChild_eq α lt heap pos
        apply ih (h.move horder htree hleft)
        · rcases hcases with hchild | ⟨hchild, -⟩
          · rw [hchild]
            exact htree.left
          · rw [hchild]
            exact htree.right
        · rw [length_swap]
          omega
        · rw [length_swap]
          omega
      next hleaf =>
        exact siftDown_isHeapFrom horder (h.upReady (by omega)) htree hpos
          (le_refl pos)

/-! ## The operations -/

theorem heapPush_isHeap (horder : WeakOrder lt) {heap : List α}
    (h : IsHeap lt heap) (item : α) : IsHeap lt (heapPush lt heap item) := by
  have hkept (i : ℕ) (hi : i < heap.length) :
      (heap ++ [item])[i]? = heap[i]? := List.getElem?_append_left hi
  refine siftDown_isHeapFrom horder ⟨?_, ?_⟩ (InSubtree.of_zero _) ?_
    (le_refl _)
  · intro i hi hstart hne
    by_cases hlt : i < heap.length
    · exact NotAfter.congr (h i hi hstart) (hkept _ (by omega)) (hkept i hlt)
    · apply NotAfter.of_le_length
      rw [List.length_append, List.length_singleton]
      omega
  · intro i hi hparent _
    apply NotAfter.of_le_length
    rw [List.length_append, List.length_singleton]
    omega
  · rw [List.length_append, List.length_singleton]
    omega

theorem heapify_isHeap (horder : WeakOrder lt) (heap : List α) :
    IsHeap lt (heapify lt heap) := by
  have hrounds : ∀ (count : ℕ) (heap : List α), 2 * count ≤ heap.length →
      IsHeapFrom lt count heap →
      IsHeap lt ((List.range count).reverse.foldl
        (fun heap pos => siftUp lt heap pos heap.length pos) heap) := by
    intro count
    induction count with
    | zero => exact fun _ _ h => h
    | succ count ih =>
        intro heap hlength h
        rw [List.range_succ, List.reverse_append, List.reverse_singleton,
          List.singleton_append, List.foldl_cons]
        have hsame := (@siftUp_perm α lt heap count heap.length
          count).length_eq
        apply ih
        · omega
        · refine siftUp_isHeapFrom horder ⟨?_, ?_⟩ InSubtree.root (by omega)
            (by omega)
          · intro i hi hstart _ hne
            exact h i hi (by omega)
          · intro i _ _ hlt
            exact absurd hlt (lt_irrefl count)
  apply hrounds (heap.length / 2) heap (by omega)
  intro i hi hstart
  exact NotAfter.of_le_length (by omega)

theorem heapPop_isHeap (horder : WeakOrder lt) {heap rest : List α}
    {item : α} (h : IsHeap lt heap)
    (hpop : heapPop lt heap = some (item, rest)) : IsHeap lt rest := by
  rcases List.eq_nil_or_concat heap with rfl | ⟨front, last, rfl⟩
  · simp [heapPop] at hpop
  · rcases front with _ | ⟨first, front⟩
    · simp only [heapPop, List.concat_eq_append, List.nil_append,
        List.getLast?_singleton, List.dropLast_singleton, Option.some.injEq,
        Prod.mk.injEq] at hpop
      obtain ⟨-, rfl⟩ := hpop
      exact isHeap_nil
    · simp only [heapPop, List.concat_eq_append, List.getLast?_append,
        List.getLast?_singleton, Option.some_or, List.dropLast_concat,
        Option.some.injEq, Prod.mk.injEq] at hpop
      obtain ⟨-, rfl⟩ := hpop
      have hkept (i : ℕ) (hi : 0 < i) (hlt : i < front.length + 1) :
          (last :: front)[i]? = ((first :: front).concat last)[i]? := by
        obtain ⟨i, rfl⟩ := Nat.exists_eq_succ_of_ne_zero hi.ne'
        rw [List.concat_eq_append, List.getElem?_append_left (by simpa using hlt)]
        rfl
      refine siftUp_isHeapFrom horder ⟨?_, ?_⟩ InSubtree.root (by simp)
        (by simp)
      · intro i hi hstart _ hne
        by_cases hlt : i < front.length + 1
        · exact NotAfter.congr (h i hi hstart) (hkept _ (by omega) (by omega))
            (hkept i hi hlt)
        · exact NotAfter.of_le_length (by simpa using hlt)
      · intro i _ _ hlt
        exact absurd hlt (lt_irrefl 0)

/-- Nothing in a heap is smaller than its root. -/
theorem IsHeap.root_notAfter (horder : WeakOrder lt) {heap : List α}
    (h : IsHeap lt heap) (pos : ℕ) : NotAfter lt heap 0 pos := by
  induction pos using Nat.strongRecOn with
  | _ pos ih =>
      rcases Nat.eq_zero_or_pos pos with rfl | hpos
      · intro a b ha hb
        obtain rfl := Option.some.inj (ha.symm.trans hb)
        rcases hlt : lt a a with _ | _
        · rfl
        · rw [← hlt, horder.asymm a a hlt]
      · by_cases hlt : pos < heap.length
        · exact NotAfter.trans horder (by omega) (ih ((pos - 1) / 2) (by omega))
            (h pos hpos (Nat.zero_le _))
        · exact NotAfter.of_le_length (not_lt.mp hlt)

/-- A pop takes out a smallest element. -/
theorem heapPop_minimal (horder : WeakOrder lt) {heap rest : List α}
    {item : α} (h : IsHeap lt heap)
    (hpop : heapPop lt heap = some (item, rest)) :
    ∀ other ∈ heap, lt other item = false := by
  have hroot : heap[0]? = some item := by
    rcases List.eq_nil_or_concat heap with rfl | ⟨front, last, rfl⟩
    · simp [heapPop] at hpop
    · rcases front with _ | ⟨first, front⟩
      · simp only [heapPop, List.concat_eq_append, List.nil_append,
          List.getLast?_singleton, List.dropLast_singleton, Option.some.injEq,
          Prod.mk.injEq] at hpop
        rw [← hpop.1]
        rfl
      · simp only [heapPop, List.concat_eq_append, List.getLast?_append,
          List.getLast?_singleton, Option.some_or, List.dropLast_concat,
          Option.some.injEq, Prod.mk.injEq] at hpop
        rw [← hpop.1]
        rfl
  intro other hother
  obtain ⟨pos, hpos⟩ := List.getElem?_of_mem hother
  exact h.root_notAfter horder pos item other hroot hpos

end Heapq
