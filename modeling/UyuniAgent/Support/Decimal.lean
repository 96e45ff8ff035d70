import Mathlib.Data.Rat.Floor
import Mathlib.Tactic.Linarith
import Mathlib.Tactic.Ring

/-!
# Rounding and fixed-point rendering of rationals

Rounding to the nearest integer with ties to even, and the decimal rendering
`fixed` that a format such as `.1f` produces from it.
-/

namespace Decimal

/-- The nearest integer, the even one on a tie. -/
def roundHalfEven (q : ℚ) : ℤ :=
  let lower := ⌊q⌋
  let rest := q - lower
  if rest < 1 / 2 then lower
  else if 1 / 2 < rest then lower + 1
  else if lower % 2 = 0 then lower
  else lower + 1

theorem floor_le_roundHalfEven (q : ℚ) : ⌊q⌋ ≤ roundHalfEven q := by
  simp only [roundHalfEven]
  split
  · exact le_refl _
  · split
    · exact Int.le_add_one (le_refl _)
    · split
      · exact le_refl _
      · exact Int.le_add_one (le_refl _)

theorem roundHalfEven_le_floor_add_one (q : ℚ) :
    roundHalfEven q ≤ ⌊q⌋ + 1 := by
  simp only [roundHalfEven]
  split
  · exact Int.le_add_one (le_refl _)
  · split
    · exact le_refl _
    · split
      · exact Int.le_add_one (le_refl _)
      · exact le_refl _

/-- Rounding commutes with adding an even integer. -/
theorem roundHalfEven_add_even (q : ℚ) (n : ℤ) :
    roundHalfEven (q + (2 * n : ℤ)) = roundHalfEven q + 2 * n := by
  have hfloor : ⌊q + (2 * n : ℤ)⌋ = ⌊q⌋ + 2 * n := Int.floor_add_intCast q (2 * n)
  have hrest : q + (2 * n : ℤ) - ((⌊q⌋ + 2 * n : ℤ) : ℚ) = q - ⌊q⌋ := by
    push_cast
    ring
  have hparity : (⌊q⌋ + 2 * n) % 2 = 0 ↔ ⌊q⌋ % 2 = 0 := by omega
  simp only [roundHalfEven, hfloor, hrest, hparity]
  split
  · rfl
  · split
    · ring
    · split
      · rfl
      · ring

theorem roundHalfEven_mono {q r : ℚ} (hqr : q ≤ r) :
    roundHalfEven q ≤ roundHalfEven r := by
  rcases (Int.floor_mono hqr).lt_or_eq with hlt | heq
  · have hq := roundHalfEven_le_floor_add_one q
    have hr := floor_le_roundHalfEven r
    omega
  · have hrest : q - ⌊q⌋ ≤ r - ⌊r⌋ := by
      rw [heq]
      linarith
    simp only [roundHalfEven, ← heq] at hrest ⊢
    by_cases hr₁ : r - ⌊q⌋ < 1 / 2
    · have hq₁ : q - ⌊q⌋ < 1 / 2 := lt_of_le_of_lt hrest hr₁
      rw [if_pos hq₁, if_pos hr₁]
    · by_cases hr₂ : 1 / 2 < r - ⌊q⌋
      · rw [if_neg hr₁, if_pos hr₂]
        split_ifs <;> omega
      · have hq₂ : ¬1 / 2 < q - ⌊q⌋ := fun h => hr₂ (lt_of_lt_of_le h hrest)
        rw [if_neg hr₁, if_neg hr₂, if_neg hq₂]
        split_ifs <;> omega

/-- Decimal digits of a natural number, padded with zeros on the left. -/
def padded (width : ℕ) (n : ℕ) : String :=
  let digits := toString n
  String.ofList (List.replicate (width - digits.length) '0') ++ digits

/-- Render `q` with the given number of digits after the decimal point, as
`f"{q:.1f}"` does for one digit. -/
def fixed (places : ℕ) (q : ℚ) : String :=
  let scaled := roundHalfEven (|q| * 10 ^ places)
  let whole := scaled.toNat / 10 ^ places
  let rest := scaled.toNat % 10 ^ places
  let sign := if q < 0 then "-" else ""
  if places = 0 then sign ++ toString whole
  else sign ++ toString whole ++ "." ++ padded places rest

end Decimal
