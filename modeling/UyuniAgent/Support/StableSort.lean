import Mathlib.Data.List.Sort

/-!
# Stable sorting, one element at a time

Insertion sort handles the elements of a list from its end.  A queue sees them
from the beginning: each new element goes behind those that are not greater.
Here the two are shown to agree, also when only the first few elements of the
result are kept.
-/

namespace StableSort

variable {α β : Type*} (r : α → α → Prop) [DecidableRel r]

/-- Insert an element behind the leading elements that are related to it. -/
def insertAfter (x : α) (l : List α) : List α :=
  (l.takeWhile fun b => r b x) ++ x :: l.dropWhile fun b => r b x

@[simp] theorem insertAfter_nil (x : α) : insertAfter r x [] = [x] := rfl

theorem insertAfter_cons_of_rel {b x : α} (l : List α) (h : r b x) :
    insertAfter r x (b :: l) = b :: insertAfter r x l := by
  simp [insertAfter, h]

theorem insertAfter_cons_of_not_rel {b x : α} (l : List α) (h : ¬r b x) :
    insertAfter r x (b :: l) = x :: b :: l := by
  simp [insertAfter, h]

variable {r}

theorem length_insertAfter (x : α) (l : List α) :
    (insertAfter r x l).length = l.length + 1 := by
  induction l with
  | nil => rfl
  | cons b l ih =>
      by_cases hb : r b x
      · rw [insertAfter_cons_of_rel r l hb, List.length_cons, ih,
          List.length_cons]
      · rw [insertAfter_cons_of_not_rel r l hb]
        rfl

theorem insertAfter_append_of_forall {x : α} {front : List α} (rest : List α)
    (h : ∀ b ∈ front, r b x) :
    insertAfter r x (front ++ rest) = front ++ insertAfter r x rest := by
  induction front with
  | nil => rfl
  | cons b front ih =>
      have hb : r b x := h b List.mem_cons_self
      rw [List.cons_append, insertAfter_cons_of_rel r _ hb, List.cons_append,
        ih fun c hc => h c (List.mem_cons_of_mem b hc)]

theorem insertAfter_append_of_not_rel {x b : α} (front rest : List α)
    (h : ¬r b x) :
    insertAfter r x (front ++ b :: rest) =
      insertAfter r x front ++ b :: rest := by
  induction front with
  | nil => exact insertAfter_cons_of_not_rel r rest h
  | cons c front ih =>
      by_cases hc : r c x
      · rw [List.cons_append, insertAfter_cons_of_rel r _ hc, ih,
          insertAfter_cons_of_rel r _ hc, List.cons_append]
      · rw [List.cons_append, insertAfter_cons_of_not_rel r _ hc,
          insertAfter_cons_of_not_rel r _ hc, List.cons_append,
          List.cons_append]

/-- Elements are inserted at the same place when they compare alike. -/
theorem map_insertAfter {s : β → β → Prop} [DecidableRel s] {f : α → β}
    {x : α} {l : List α} (h : ∀ b ∈ l, r b x ↔ s (f b) (f x)) :
    (insertAfter r x l).map f = insertAfter s (f x) (l.map f) := by
  induction l with
  | nil => rfl
  | cons b l ih =>
      have hl := ih fun c hc => h c (List.mem_cons_of_mem b hc)
      by_cases hb : r b x
      · have hfb := (h b List.mem_cons_self).mp hb
        rw [insertAfter_cons_of_rel r l hb, List.map_cons, hl, List.map_cons,
          insertAfter_cons_of_rel s _ hfb]
      · have hfb := mt (h b List.mem_cons_self).mpr hb
        rw [insertAfter_cons_of_not_rel r l hb, List.map_cons, List.map_cons,
          insertAfter_cons_of_not_rel s _ hfb]

/-- An ordered insertion that passes exactly the related elements. -/
theorem orderedInsert_eq_insertAfter {s : α → α → Prop} [DecidableRel s]
    {x : α} {l : List α} (h : ∀ b ∈ l, ¬s x b ↔ r b x) :
    l.orderedInsert s x = insertAfter r x l := by
  induction l with
  | nil => rfl
  | cons b l ih =>
      by_cases hb : r b x
      · rw [List.orderedInsert_of_not_le s l ((h b List.mem_cons_self).mpr hb),
          insertAfter_cons_of_rel r l hb,
          ih fun c hc => h c (List.mem_cons_of_mem b hc)]
      · have hle : s x b := not_not.mp (mt (h b List.mem_cons_self).mp hb)
        rw [List.orderedInsert_cons_of_le s l hle,
          insertAfter_cons_of_not_rel r l hb]

/-! ## Sorting from the front -/

section Sorting

variable [Std.Total r] [IsTrans α r]

theorem orderedInsert_insertAfter (x a : α) (l : List α) :
    (insertAfter r a l).orderedInsert r x =
      insertAfter r a (l.orderedInsert r x) := by
  induction l with
  | nil =>
      by_cases hxa : r x a
      · simp [insertAfter, hxa]
      · simp [insertAfter, hxa]
  | cons b l ih =>
      by_cases hba : r b a
      · rw [insertAfter_cons_of_rel r l hba]
        by_cases hxb : r x b
        · have hxa : r x a := trans_of r hxb hba
          rw [List.orderedInsert_cons_of_le r _ hxb,
            List.orderedInsert_cons_of_le r _ hxb,
            insertAfter_cons_of_rel r _ hxa, insertAfter_cons_of_rel r _ hba]
        · rw [List.orderedInsert_of_not_le r _ hxb,
            List.orderedInsert_of_not_le r _ hxb, ih,
            insertAfter_cons_of_rel r _ hba]
      · rw [insertAfter_cons_of_not_rel r l hba]
        by_cases hxa : r x a
        · have hab : r a b := (total_of r a b).resolve_right hba
          have hxb : r x b := trans_of r hxa hab
          rw [List.orderedInsert_cons_of_le r _ hxa,
            List.orderedInsert_cons_of_le r _ hxb,
            insertAfter_cons_of_rel r _ hxa,
            insertAfter_cons_of_not_rel r _ hba]
        · rw [List.orderedInsert_of_not_le r _ hxa]
          by_cases hxb : r x b
          · rw [List.orderedInsert_cons_of_le r _ hxb,
              insertAfter_cons_of_not_rel r _ hxa]
          · rw [List.orderedInsert_of_not_le r _ hxb,
              insertAfter_cons_of_not_rel r _ hba]

/-- A new last element is sorted in behind the elements not greater than
it. -/
theorem insertionSort_concat (l : List α) (a : α) :
    (l ++ [a]).insertionSort r = insertAfter r a (l.insertionSort r) := by
  induction l with
  | nil => rfl
  | cons x l ih =>
      rw [List.cons_append, List.insertionSort_cons, ih,
        orderedInsert_insertAfter, List.insertionSort_cons]

end Sorting

/-- An element behind the first ones does not show among them. -/
theorem take_insertAfter_of_forall {x : α} {front : List α} (rest : List α)
    (h : ∀ b ∈ front, r b x) :
    (insertAfter r x (front ++ rest)).take front.length = front := by
  rw [insertAfter_append_of_forall rest h]
  exact List.take_left

/-- An element that goes before the last of the first ones takes its place
among them. -/
theorem take_insertAfter_of_not_rel {x last : α} (front rest : List α)
    (h : ¬r last x) :
    (insertAfter r x (front ++ last :: rest)).take (front.length + 1) =
      insertAfter r x front := by
  rw [insertAfter_append_of_not_rel front rest h,
    ← length_insertAfter (r := r) x front]
  exact List.take_left

/-! ## A bounded number of elements -/

variable (r) in
/-- Insert an element into a list of at most `n`; a full list gives up its last
element for one that goes before it. -/
def boundedInsert (n : ℕ) (x : α) (l : List α) : List α :=
  if l.length < n then insertAfter r x l
  else
    match l.getLast? with
    | none => l
    | some last => if r last x then l else insertAfter r x l.dropLast

theorem map_boundedInsert {s : β → β → Prop} [DecidableRel s] {f : α → β}
    {x : α} {l : List α} (n : ℕ) (h : ∀ b ∈ l, r b x ↔ s (f b) (f x)) :
    (boundedInsert r n x l).map f = boundedInsert s n (f x) (l.map f) := by
  rw [boundedInsert, boundedInsert, List.length_map]
  split
  · exact map_insertAfter h
  · rw [List.getLast?_map]
    rcases hlast : l.getLast? with _ | last
    · rfl
    · have hrel := h last (List.mem_of_getLast? hlast)
      dsimp only [Option.map_some]
      by_cases hbehind : r last x
      · rw [if_pos hbehind, if_pos (hrel.mp hbehind)]
      · rw [if_neg hbehind, if_neg (mt hrel.mpr hbehind), ← List.map_dropLast]
        exact map_insertAfter fun b hb => h b (List.dropLast_subset l hb)

/-- Bounded insertions keep the first elements of the sorted list. -/
theorem take_insertionSort_concat [Std.Total r] [IsTrans α r] (n : ℕ)
    (l : List α) (a : α) :
    ((l ++ [a]).insertionSort r).take n =
      boundedInsert r n a ((l.insertionSort r).take n) := by
  rw [insertionSort_concat, boundedInsert]
  have hsorted : (l.insertionSort r).Pairwise r :=
    List.pairwise_insertionSort r l
  generalize l.insertionSort r = sorted at hsorted ⊢
  split
  next hroom =>
    have hlt : sorted.length < n := by
      rw [List.length_take] at hroom
      omega
    rw [List.take_of_length_le (le_of_lt hlt), List.take_of_length_le]
    rw [length_insertAfter]
    exact hlt
  next hfull =>
    have hlength : (sorted.take n).length = n :=
      le_antisymm (List.length_take_le n sorted) (not_lt.mp hfull)
    split
    next hnone =>
      have hempty := List.getLast?_eq_none_iff.mp hnone
      rw [hempty, List.length_nil] at hlength
      rw [← hlength, List.take_zero, List.take_zero]
    next last hlast =>
      have hsplit := List.dropLast_append_getLast? last hlast
      have hwhole := List.take_append_drop n sorted
      split
      next hbehind =>
        have hforall : ∀ b ∈ sorted.take n, r b a := by
          intro b hb
          rw [← hsplit] at hb
          rcases List.mem_append.mp hb with hfront | hlastMem
          · have hfirst := hsorted.sublist (List.take_sublist n sorted)
            rw [← hsplit] at hfirst
            exact trans_of r ((List.pairwise_append.mp hfirst).2.2 b hfront
              last (by simp)) hbehind
          · rwa [List.mem_singleton.mp hlastMem]
        have htake := take_insertAfter_of_forall (sorted.drop n) hforall
        rwa [hwhole, hlength] at htake
      next hbefore =>
        have htake := take_insertAfter_of_not_rel (sorted.take n).dropLast
          (sorted.drop n) hbefore
        have hfront : (sorted.take n).dropLast.length + 1 = n := by
          rw [← hsplit, List.length_append, List.length_singleton] at hlength
          exact hlength
        rw [hfront, List.append_cons, hsplit, hwhole] at htake
        exact htake

end StableSort
