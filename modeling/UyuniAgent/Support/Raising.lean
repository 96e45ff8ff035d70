import Mathlib.Data.List.Basic
import Mathlib.Data.List.Forall2

/-!
# Computations that may raise

What a computation in `Except` returns and which exceptions it can raise,
through sequencing and through loops.
-/

namespace Raising

universe u v

variable {ε : Type u} {α β σ : Type v}

theorem bind_eq_ok_iff {x : Except ε α} {f : α → Except ε β} {b : β} :
    x >>= f = .ok b ↔ ∃ a, x = .ok a ∧ f a = .ok b := by
  rcases x with e | a
  · simp [bind, Except.bind]
  · simp [bind, Except.bind]

theorem bind_eq_error_iff {x : Except ε α} {f : α → Except ε β} {e : ε} :
    x >>= f = .error e ↔
      x = .error e ∨ ∃ a, x = .ok a ∧ f a = .error e := by
  rcases x with e' | a
  · simp [bind, Except.bind]
  · simp [bind, Except.bind]

theorem mapError_eq_ok_iff {ε' : Type u} {x : Except ε α} {f : ε → ε'}
    {a : α} : x.mapError f = .ok a ↔ x = .ok a := by
  rcases x with e | b
  · simp [Except.mapError]
  · simp [Except.mapError]

/-- The computation returns. -/
def Returns (x : Except ε α) : Prop :=
  ∃ a, x = .ok a

/-- Every exception of the computation satisfies `P`. -/
def RaisesOnly (P : ε → Prop) (x : Except ε α) : Prop :=
  ∀ e, x = .error e → P e

theorem returns_ok (a : α) : Returns (.ok a : Except ε α) :=
  ⟨a, rfl⟩

theorem not_returns_error (e : ε) : ¬Returns (.error e : Except ε α) := by
  rintro ⟨a, h⟩
  cases h

theorem returns_bind_iff {x : Except ε α} {f : α → Except ε β} :
    Returns (x >>= f) ↔ ∃ a, x = .ok a ∧ Returns (f a) := by
  constructor
  · rintro ⟨b, hb⟩
    obtain ⟨a, ha, hfa⟩ := bind_eq_ok_iff.mp hb
    exact ⟨a, ha, b, hfa⟩
  · rintro ⟨a, ha, b, hfa⟩
    exact ⟨b, bind_eq_ok_iff.mpr ⟨a, ha, hfa⟩⟩

namespace RaisesOnly

variable {P : ε → Prop}

theorem ok (a : α) : RaisesOnly P (.ok a : Except ε α) := by
  intro e h
  cases h

theorem error {e : ε} (h : P e) : RaisesOnly P (.error e : Except ε α) := by
  intro e' heq
  obtain rfl := Except.error.inj heq
  exact h

theorem bind {x : Except ε α} {f : α → Except ε β}
    (hx : RaisesOnly P x) (hf : ∀ a, x = .ok a → RaisesOnly P (f a)) :
    RaisesOnly P (x >>= f) := by
  intro e h
  rcases bind_eq_error_iff.mp h with hfirst | ⟨a, ha, hlater⟩
  · exact hx e hfirst
  · exact hf a ha e hlater

theorem foldlM {f : σ → α → Except ε σ} (hf : ∀ s a, RaisesOnly P (f s a))
    (s : σ) (xs : List α) : RaisesOnly P (xs.foldlM f s) := by
  induction xs generalizing s with
  | nil => exact ok s
  | cons a xs ih => exact (hf s a).bind fun next _ => ih next

end RaisesOnly

/-- A loop returns when each of its rounds does. -/
theorem returns_mapM_iff {f : α → Except ε β} {xs : List α} :
    Returns (xs.mapM f) ↔ ∀ a ∈ xs, Returns (f a) := by
  induction xs with
  | nil => simp [Returns, pure, Except.pure]
  | cons a xs ih =>
      rw [List.mapM_cons, returns_bind_iff, List.forall_mem_cons]
      constructor
      · rintro ⟨b, hb, hrest⟩
        obtain ⟨bs, hbs, -⟩ := returns_bind_iff.mp hrest
        exact ⟨⟨b, hb⟩, ih.mp ⟨bs, hbs⟩⟩
      · rintro ⟨⟨b, hb⟩, hrest⟩
        obtain ⟨bs, hbs⟩ := ih.mpr hrest
        exact ⟨b, hb, returns_bind_iff.mpr ⟨bs, hbs, returns_ok (b :: bs)⟩⟩

/-- The results of a loop are those of its rounds, in their order. -/
theorem mapM_eq_ok_iff {f : α → Except ε β} {xs : List α} {ys : List β} :
    xs.mapM f = .ok ys ↔ List.Forall₂ (fun x y => f x = .ok y) xs ys := by
  induction xs generalizing ys with
  | nil =>
      rw [List.forall₂_nil_left_iff]
      simp [pure, Except.pure, eq_comm]
  | cons a xs ih =>
      rw [List.mapM_cons, bind_eq_ok_iff, List.forall₂_cons_left_iff]
      constructor
      · rintro ⟨b, hb, hrest⟩
        obtain ⟨bs, hbs, heq⟩ := bind_eq_ok_iff.mp hrest
        exact ⟨b, bs, hb, ih.mp hbs, (Except.ok.inj heq).symm⟩
      · rintro ⟨b, bs, hb, hbs, rfl⟩
        exact ⟨b, hb, bind_eq_ok_iff.mpr ⟨bs, ih.mpr hbs, rfl⟩⟩

/-- A loop raises the exception of the first of its rounds that does not
return. -/
theorem mapM_eq_error_iff {f : α → Except ε β} {xs : List α} {e : ε} :
    xs.mapM f = .error e ↔
      ∃ before x after, xs = before ++ x :: after ∧
        (∀ y ∈ before, Returns (f y)) ∧ f x = .error e := by
  induction xs with
  | nil => simp [pure, Except.pure]
  | cons a xs ih =>
      rw [List.mapM_cons, bind_eq_error_iff]
      constructor
      · rintro (ha | ⟨b, hb, hrest⟩)
        · exact ⟨[], a, xs, rfl, by simp, ha⟩
        · rcases bind_eq_error_iff.mp hrest with hlater | ⟨_, _, hpure⟩
          · obtain ⟨before, x, after, rfl, hbefore, hx⟩ := ih.mp hlater
            refine ⟨a :: before, x, after, rfl, ?_, hx⟩
            exact List.forall_mem_cons.mpr ⟨⟨b, hb⟩, hbefore⟩
          · cases hpure
      · rintro ⟨before, x, after, heq, hbefore, hx⟩
        rcases before with _ | ⟨first, before⟩
        · obtain ⟨rfl, rfl⟩ := List.cons.inj heq
          exact Or.inl hx
        · obtain ⟨rfl, rfl⟩ := List.cons.inj heq
          obtain ⟨⟨b, hb⟩, hbefore⟩ := List.forall_mem_cons.mp hbefore
          refine Or.inr ⟨b, hb, bind_eq_error_iff.mpr (Or.inl ?_)⟩
          exact ih.mpr ⟨before, x, after, rfl, hbefore, hx⟩

/-- A result of a loop is the result of one of its rounds. -/
theorem mem_of_mapM_eq_ok {f : α → Except ε β} {xs : List α} {ys : List β}
    (h : xs.mapM f = .ok ys) {y : β} (hy : y ∈ ys) : ∃ x ∈ xs, f x = .ok y := by
  induction xs generalizing ys with
  | nil =>
      obtain rfl : ys = [] := by simpa [pure, Except.pure] using h.symm
      simp at hy
  | cons a xs ih =>
      rw [List.mapM_cons] at h
      obtain ⟨b, hb, hrest⟩ := bind_eq_ok_iff.mp h
      obtain ⟨bs, hbs, heq⟩ := bind_eq_ok_iff.mp hrest
      obtain rfl := Except.ok.inj heq
      rcases List.mem_cons.mp hy with rfl | hmem
      · exact ⟨a, List.mem_cons_self, hb⟩
      · obtain ⟨x, hx, hfx⟩ := ih hbs hmem
        exact ⟨x, List.mem_cons_of_mem a hx, hfx⟩

/-- A round of a loop has its result among those of the loop. -/
theorem exists_of_mem_mapM {f : α → Except ε β} {xs : List α} {ys : List β}
    (h : xs.mapM f = .ok ys) {x : α} (hx : x ∈ xs) : ∃ y ∈ ys, f x = .ok y := by
  have hrounds := mapM_eq_ok_iff.mp h
  clear h
  induction hrounds with
  | nil => cases hx
  | cons hround _ ih =>
      rcases List.mem_cons.mp hx with rfl | hmem
      · exact ⟨_, List.mem_cons_self, hround⟩
      · obtain ⟨y, hy, hfx⟩ := ih hmem
        exact ⟨y, List.mem_cons_of_mem _ hy, hfx⟩

/-- What each round passes on, the loop passes on. -/
theorem map_eq_of_mapM {γ : Type*} {f : α → Except ε β} {g : β → γ} {k : α → γ}
    (hround : ∀ x y, f x = .ok y → g y = k x) {xs : List α} {ys : List β}
    (h : xs.mapM f = .ok ys) : ys.map g = xs.map k := by
  have hrounds := mapM_eq_ok_iff.mp h
  clear h
  induction hrounds with
  | nil => rfl
  | cons hfirst _ ih => rw [List.map_cons, List.map_cons, hround _ _ hfirst, ih]

/-- A loop over rounds that may yield nothing keeps what each of them yields. -/
theorem filterMap_of_mapM {f : α → Except ε (Option β)} {g : α → Option β}
    (hround : ∀ x y, f x = .ok y → g x = y) {xs : List α}
    {ys : List (Option β)} (h : xs.mapM f = .ok ys) :
    ys.filterMap id = xs.filterMap g := by
  have hrounds := mapM_eq_ok_iff.mp h
  clear h
  induction hrounds with
  | nil => rfl
  | cons hfirst _ ih =>
      rw [List.filterMap_cons, List.filterMap_cons, hround _ _ hfirst, ih]
      rfl

end Raising
