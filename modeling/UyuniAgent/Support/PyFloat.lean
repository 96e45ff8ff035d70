import UyuniAgent.Support.PyValue

/-!
# Conversions to floats, and parts of values

`float(value)` with the literals that it reads from a text, the comparison of
floats, and the parts of a value of unknown shape: an index, a key, and the
methods that only a dictionary has.
-/

namespace PyFloat

/-- `a < b`; a NaN is not ordered. -/
def lt : PyFloat → PyFloat → Bool
  | .finite a, .finite b => a < b
  | .finite _, .infinite negative => !negative
  | .infinite negative, .finite _ => negative
  | .infinite negative, .infinite negative' => negative && !negative'
  | _, _ => false

/-- `math.isfinite(value)`. -/
def isFinite : PyFloat → Bool
  | .finite _ => true
  | _ => false

/-- `max(values)`, if there are any.  A NaN in the first place stays. -/
def maximum : List PyFloat → Option PyFloat
  | [] => none
  | first :: rest =>
      some (rest.foldl (fun greatest value =>
        if greatest.lt value then value else greatest) first)

/-- `min(a, b)`. -/
def min2 (a b : PyFloat) : PyFloat :=
  if b.lt a then b else a

/-- `max(a, b)`. -/
def max2 (a b : PyFloat) : PyFloat :=
  if a.lt b then b else a

/-- `a <= b`; a NaN is not ordered. -/
def le : PyFloat → PyFloat → Bool
  | .nan, _ => false
  | _, .nan => false
  | a, b => !b.lt a

theorem le_of_lt {a b : PyFloat} (h : a.lt b = true) : a.le b = true := by
  rcases a with a | negative | _
  · rcases b with b | negative' | _
    · simp only [lt, decide_eq_true_eq] at h
      simp [le, lt, h.le]
    · simpa [le, lt] using h
    · cases h
  · rcases b with b | negative' | _
    · simpa [le, lt] using h
    · simp_all [le, lt]
    · cases h
  · cases h

/-- What is greater than something is not a NaN. -/
theorem le_self_of_lt {a b : PyFloat} (h : a.lt b = true) :
    b.le b = true := by
  rcases b with b | negative | _
  · simp [le, lt]
  · simp [le, lt]
  · rcases a with _ | _ | _
    all_goals cases h

theorem zero_le_max2 (value : PyFloat) :
    (finite 0).le (max2 (finite 0) value) = true := by
  rw [max2]
  split
  next h => exact le_of_lt h
  next => rfl

/-- What is bounded from below by zero and then from above by a positive number
lies between the two, even if it comes from a NaN. -/
theorem bounded_spec {high : PyFloat} (h : (finite 0).lt high = true)
    (value : PyFloat) :
    (finite 0).le (min2 high (max2 (finite 0) value)) = true ∧
      (min2 high (max2 (finite 0) value)).le high = true := by
  rw [min2]
  split
  next hbelow => exact ⟨zero_le_max2 value, le_of_lt hbelow⟩
  next => exact ⟨le_of_lt h, le_self_of_lt h⟩

/-- A value between two bounds is finite, even if it comes from a NaN. -/
theorem clamp_spec {low high : ℚ} (h : low ≤ high) (value : PyFloat) :
    ∃ clamped, max2 (.finite low) (min2 (.finite high) value) =
        .finite clamped ∧ low ≤ clamped ∧ clamped ≤ high := by
  rcases value with value | negative | _
  · by_cases hhigh : value < high
    · have hmin : min2 (.finite high) (.finite value) = .finite value := by
        simp [min2, lt, hhigh]
      by_cases hlow : low < value
      · exact ⟨value, by simp [hmin, max2, lt, hlow], hlow.le, hhigh.le⟩
      · exact ⟨low, by simp [hmin, max2, lt, hlow], le_refl _, h⟩
    · have hmin : min2 (.finite high) (.finite value) = .finite high := by
        simp [min2, lt, hhigh]
      rcases h.lt_or_eq with hlt | rfl
      · exact ⟨high, by simp [hmin, max2, lt, hlt], h, le_refl _⟩
      · exact ⟨low, by simp [hmin, max2, lt], le_refl _, le_refl _⟩
  · rcases negative with _ | _
    · rcases h.lt_or_eq with hlt | rfl
      · exact ⟨high, by simp [min2, max2, lt, hlt], h, le_refl _⟩
      · exact ⟨low, by simp [min2, max2, lt], le_refl _, le_refl _⟩
    · exact ⟨low, by simp [min2, max2, lt], le_refl _, h⟩
  · rcases h.lt_or_eq with hlt | rfl
    · exact ⟨high, by simp [min2, max2, lt, hlt], h, le_refl _⟩
    · exact ⟨low, by simp [min2, max2, lt], le_refl _, le_refl _⟩

/-- A property that passes down from the greater value to the smaller one, and
that a NaN does not have, holds of the maximum when it holds of the first value
and of every later one that is a number. -/
theorem foldl_maximum_iff {P : PyFloat → Prop}
    (hdown : ∀ ⦃a b⦄, a.lt b = true → P b → P a)
    (hup : ∀ ⦃a b⦄, a.lt b = false → P a → b = .nan ∨ P b)
    (hnan : ¬P .nan) (first : PyFloat) (rest : List PyFloat) :
    P (rest.foldl (fun greatest value =>
        if greatest.lt value then value else greatest) first) ↔
      P first ∧ ∀ value ∈ rest, value = .nan ∨ P value := by
  induction rest generalizing first with
  | nil => simp
  | cons value rest ih =>
      rw [List.foldl_cons, ih, List.forall_mem_cons, ← and_assoc]
      refine and_congr_left fun _ => ?_
      by_cases hlt : first.lt value = true
      · rw [if_pos hlt]
        constructor
        · intro hvalue
          exact ⟨hdown hlt hvalue, Or.inr hvalue⟩
        · rintro ⟨hfirst, rfl | hvalue⟩
          · rcases first with _ | _ | _
            · cases hlt
            · cases hlt
            · exact absurd hfirst hnan
          · exact hvalue
      · rw [if_neg hlt]
        rw [Bool.not_eq_true] at hlt
        constructor
        · intro hfirst
          exact ⟨hfirst, hup hlt hfirst⟩
        · rintro ⟨hfirst, -⟩
          exact hfirst

/-! ## Literals -/

/-- The decimal digits of Unicode as those of ASCII. -/
def asciiDigit (c : Char) : Char :=
  match PyText.digit? c with
  | some digit => Char.ofNat ('0'.toNat + digit)
  | none => c

/-- The literal without the underscores, each of which must stand between two
digits; the flag says whether a digit was the last character. -/
def withoutUnderscores : Bool → List Char → Option (List Char)
  | _, [] => some []
  | afterDigit, '_' :: rest =>
      match rest with
      | [] => none
      | c :: _ =>
          if afterDigit && Json.isDigit c then withoutUnderscores false rest
          else none
  | _, c :: rest => (withoutUnderscores (Json.isDigit c) rest).map (c :: ·)

/-- The magnitude of a literal without its sign. -/
def magnitude? (word : List Char) : Option PyFloat :=
  let lower := word.map Char.toLower
  if lower = "inf".toList ∨ lower = "infinity".toList then
    some (.infinite false)
  else if lower = "nan".toList then some .nan
  else
    let whole := word.takeWhile Json.isDigit
    let (digits, rest) :=
      match word.dropWhile Json.isDigit with
      | '.' :: rest => (rest.takeWhile Json.isDigit, rest.dropWhile Json.isDigit)
      | rest => ([], rest)
    if whole.isEmpty && digits.isEmpty then none
    else
      match Json.exponent rest with
      | none => none
      | some power =>
          some (Binary64.round (Json.natOf (whole ++ digits) *
            10 ^ (power.getD 0 - digits.length)))

def negate : PyFloat → PyFloat
  | .finite value => .finite (-value)
  | .infinite negative => .infinite (!negative)
  | .nan => .nan

/-- `float(text)`, `none` when it raises `ValueError`. -/
def ofText? (text : String) : Option PyFloat :=
  let word := (PyText.stripNumber text).map asciiDigit
  match withoutUnderscores false word with
  | none => none
  | some ('-' :: word) => (magnitude? word).map negate
  | some ('+' :: word) => magnitude? word
  | some word => magnitude? word

example : ofText? " 1_00.5e0\n" = some (.finite (201 / 2)) := by
  decide +kernel

/-! ## Arithmetic -/

def add : PyFloat → PyFloat → PyFloat
  | .finite a, .finite b => Binary64.round (a + b)
  | .infinite negative, .finite _ => .infinite negative
  | .finite _, .infinite negative => .infinite negative
  | .infinite negative, .infinite negative' =>
      if negative = negative' then .infinite negative else .nan
  | _, _ => .nan

/-- `a - b`. -/
def sub (a b : PyFloat) : PyFloat :=
  a.add b.negate

/-- An infinity times a number. -/
def scale (negative : Bool) (factor : ℚ) : PyFloat :=
  if factor = 0 then .nan else .infinite (negative ^^ (factor < 0))

def mul : PyFloat → PyFloat → PyFloat
  | .finite a, .finite b => Binary64.round (a * b)
  | .infinite negative, .finite b => scale negative b
  | .finite a, .infinite negative => scale negative a
  | .infinite negative, .infinite negative' =>
      .infinite (negative ^^ negative')
  | _, _ => .nan

/-- `a * n` for an integer `n`, which becomes a float first. -/
def mulInt (a : PyFloat) (n : ℤ) : Except PyException PyFloat := do
  let factor ← PyValue.floatOfInt n
  return a.mul (.finite factor)

end PyFloat

namespace PyValue

open Raising

/-! ## `float` -/

/-- `float(value)`. -/
def toFloat : PyValue → Except PyException PyFloat
  | .none => .error .typeError
  | .bool value => .ok (.finite (if value then 1 else 0))
  | .int value => (floatOfInt value).map .finite
  | .float value => .ok value
  | .str text =>
      match PyFloat.ofText? text with
      | some value => .ok value
      | Option.none => .error .valueError
  | .list _ => .error .typeError
  | .dict _ => .error .typeError

/-- The largest power of two that is a float has the exponent 1023. -/
theorem floatOfInt_two_pow (exponent : ℕ) :
    (∃ value, floatOfInt (2 ^ exponent) = .ok value) ↔ exponent < 1024 := by
  have hfits : ((2 : ℤ) ^ exponent).natAbs < Binary64.overflowBound ↔
      exponent < 1024 := by
    rw [Int.natAbs_pow]
    change 2 ^ exponent < Binary64.overflowBound ↔ _
    constructor
    · intro h
      by_contra hlarge
      have hpow : 2 ^ 1024 ≤ 2 ^ exponent := by
        gcongr
        · decide
        · exact not_lt.mp hlarge
      have hbound : Binary64.overflowBound ≤ 2 ^ 1024 := by decide +kernel
      exact absurd h (not_lt.mpr (hbound.trans hpow))
    · intro h
      have hpow : 2 ^ exponent ≤ 2 ^ 1023 := by
        gcongr
        · decide
        · omega
      have hbound : 2 ^ 1023 < Binary64.overflowBound := by decide +kernel
      exact hpow.trans_lt hbound
  rw [floatOfInt]
  split
  next h => simp [hfits.mp h]
  next h =>
    constructor
    · rintro ⟨_, h'⟩
      cases h'
    · intro hsmall
      exact absurd (hfits.mpr hsmall) h

/-- The value is an integer that is too large for a float. -/
def Overflows (value : PyValue) : Prop :=
  ∃ n : ℤ, value = .int n ∧ Binary64.overflowBound ≤ n.natAbs

/-- `float` raises `OverflowError` of such an integer, and else at most a
`TypeError` or a `ValueError`. -/
theorem toFloat_cases (value : PyValue) :
    (∃ number, value.toFloat = .ok number ∧ ¬value.Overflows) ∨
      (value.toFloat = .error .typeError ∧ ¬value.Overflows) ∨
      (value.toFloat = .error .valueError ∧ ¬value.Overflows) ∨
      (value.toFloat = .error .overflowError ∧ value.Overflows) := by
  have hother (h : ∀ n, value ≠ .int n) : ¬value.Overflows := by
    rintro ⟨n, rfl, -⟩
    exact h n rfl
  rcases value with _ | flag | n | number | text | items | members
  · exact Or.inr (Or.inl ⟨rfl, hother (by simp)⟩)
  · exact Or.inl ⟨_, rfl, hother (by simp)⟩
  · by_cases hsmall : n.natAbs < Binary64.overflowBound
    · refine Or.inl ⟨.finite (Binary64.nearest n), ?_, ?_⟩
      · simp [toFloat, floatOfInt, hsmall, Except.map]
      · rintro ⟨m, heq, hlarge⟩
        obtain rfl := PyValue.int.inj heq
        omega
    · refine Or.inr (Or.inr (Or.inr ⟨?_, n, rfl, not_lt.mp hsmall⟩))
      simp [toFloat, floatOfInt, hsmall, Except.map]
  · exact Or.inl ⟨_, rfl, hother (by simp)⟩
  · rcases hread : PyFloat.ofText? text with _ | number
    · exact Or.inr (Or.inr (Or.inl ⟨by simp [toFloat, hread],
        hother (by simp)⟩))
    · exact Or.inl ⟨number, by simp [toFloat, hread], hother (by simp)⟩
  · exact Or.inr (Or.inl ⟨rfl, hother (by simp)⟩)
  · exact Or.inr (Or.inl ⟨rfl, hother (by simp)⟩)

/-! ## Parts -/

/-- `value[n]`. -/
def index (n : ℕ) : PyValue → Except PyException PyValue
  | .list items =>
      match items[n]? with
      | some item => .ok item
      | Option.none => .error .indexError
  | .str text =>
      match text.toList[n]? with
      | some char => .ok (.str (String.ofList [char]))
      | Option.none => .error .indexError
  | .dict _ => .error .keyError
  | _ => .error .typeError

/-- `value[key]`. -/
def key (name : String) : PyValue → Except PyException PyValue
  | .dict members => item members name
  | _ => .error .typeError

/-- The members of the dictionary whose `get` is called. -/
def members : PyValue → Except PyException (List (String × PyValue))
  | .dict members => .ok members
  | _ => .error .attributeError

/-- `members.get(key, default)`. -/
def getOr (members : List (String × PyValue)) (key : String)
    (default : PyValue) : PyValue :=
  (members.lookup key).getD default

/-- The elements of `value[:n]`, when it is iterated over. -/
def slice (n : ℕ) : PyValue → Except PyException (List PyValue)
  | .list items => .ok (items.take n)
  | .str text =>
      .ok ((text.toList.take n).map fun char => .str (String.ofList [char]))
  | _ => .error .typeError

theorem slice_length {n : ℕ} {value : PyValue} {items : List PyValue}
    (h : value.slice n = .ok items) : items.length ≤ n := by
  simp only [slice] at h
  split at h
  · obtain rfl := Except.ok.inj h
    exact List.length_take_le n _
  · obtain rfl := Except.ok.inj h
    rw [List.length_map]
    exact List.length_take_le n _
  · cases h

theorem members_eq_ok_iff {value : PyValue}
    {entries : List (String × PyValue)} :
    value.members = .ok entries ↔ value = .dict entries := by
  rcases value with _ | _ | _ | _ | _ | _ | entries'
  case dict => simp [members]
  all_goals simp [members]

/-- A missing part of a value is a lookup error or a type error. -/
def IsLookupError (e : PyException) : Prop :=
  e = .keyError ∨ e = .indexError ∨ e = .typeError

theorem index_raises (n : ℕ) (value : PyValue) :
    RaisesOnly IsLookupError (value.index n) := by
  rcases value with _ | _ | _ | _ | text | items | _
  case str =>
    simp only [index]
    split
    · exact RaisesOnly.ok _
    · exact RaisesOnly.error (Or.inr (Or.inl rfl))
  case list =>
    simp only [index]
    split
    · exact RaisesOnly.ok _
    · exact RaisesOnly.error (Or.inr (Or.inl rfl))
  case dict => exact RaisesOnly.error (Or.inl rfl)
  all_goals exact RaisesOnly.error (Or.inr (Or.inr rfl))

theorem key_raises (name : String) (value : PyValue) :
    RaisesOnly IsLookupError (value.key name) := by
  rcases value with _ | _ | _ | _ | _ | _ | entries
  case dict =>
    simp only [key, item]
    split
    · exact RaisesOnly.ok _
    · exact RaisesOnly.error (Or.inl rfl)
  all_goals exact RaisesOnly.error (Or.inr (Or.inr rfl))

end PyValue
