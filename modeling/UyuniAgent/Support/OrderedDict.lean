import Mathlib.Data.List.Basic
import Mathlib.Data.List.Nodup

/-!
# Dictionaries that keep insertion order

A list of key-value pairs whose keys are distinct.  Writing to a key that is
present keeps its position, writing to a new key appends an entry, and
iteration follows the list.  The distinctness of the keys is part of the
structure, so every operation below is proved to keep it where it is defined.
-/

structure OrderedDict (κ ν : Type*) where
  entries : List (κ × ν)
  nodup : (entries.map Prod.fst).Nodup

namespace OrderedDict

variable {κ ν μ : Type*}

instance [DecidableEq κ] [DecidableEq ν] : DecidableEq (OrderedDict κ ν) :=
  fun d d' => decidable_of_iff (d.entries = d'.entries) (by
    cases d
    cases d'
    simp)

def empty : OrderedDict κ ν := ⟨[], List.nodup_nil⟩

def keys (d : OrderedDict κ ν) : List κ := d.entries.map Prod.fst

def values (d : OrderedDict κ ν) : List ν := d.entries.map Prod.snd

/-- Keep the entries that satisfy `p`. -/
def filter (d : OrderedDict κ ν) (p : κ × ν → Bool) : OrderedDict κ ν where
  entries := d.entries.filter p
  nodup := d.nodup.sublist (List.filter_sublist.map Prod.fst)

/-- Rewrite every value, knowing its key. -/
def mapValues (d : OrderedDict κ ν) (f : κ → ν → μ) : OrderedDict κ μ where
  entries := d.entries.map fun entry => (entry.1, f entry.1 entry.2)
  nodup := by
    have hkeys : (d.entries.map fun entry => (entry.1, f entry.1 entry.2)).map
        Prod.fst = d.entries.map Prod.fst := by
      simp [Function.comp_def]
    rw [hkeys]
    exact d.nodup

variable [DecidableEq κ]

def get? (d : OrderedDict κ ν) (k : κ) : Option ν :=
  (d.entries.find? fun entry => entry.1 = k).map Prod.snd

/-- `d[k] = v`. -/
def set (d : OrderedDict κ ν) (k : κ) (v : ν) : OrderedDict κ ν :=
  if h : k ∈ d.keys then
    d.mapValues fun k' v' => if k' = k then v else v'
  else
    { entries := d.entries ++ [(k, v)]
      nodup := by
        rw [List.map_append]
        exact d.nodup.append (List.nodup_singleton k) (by simpa [keys] using h) }

/-- `d.setdefault(k, v)`. -/
def setDefault (d : OrderedDict κ ν) (k : κ) (v : ν) : OrderedDict κ ν :=
  if k ∈ d.keys then d else d.set k v

/-- Remove a key, if it is there. -/
def erase (d : OrderedDict κ ν) (k : κ) : OrderedDict κ ν :=
  d.filter fun entry => decide (entry.1 ≠ k)

/-! ## Looking up -/

@[simp] theorem get?_empty (k : κ) : (empty : OrderedDict κ ν).get? k = none :=
  rfl

theorem mem_entries_of_get? {d : OrderedDict κ ν} {k : κ} {v : ν}
    (h : d.get? k = some v) : (k, v) ∈ d.entries := by
  obtain ⟨entry, hfind, rfl⟩ := Option.map_eq_some_iff.mp h
  have hkey : entry.1 = k := by simpa using List.find?_some hfind
  have hmem := List.mem_of_find?_eq_some hfind
  rw [← hkey]
  exact hmem

theorem get?_of_mem_entries {d : OrderedDict κ ν} {k : κ} {v : ν}
    (h : (k, v) ∈ d.entries) : d.get? k = some v := by
  cases hget : d.entries.find? fun entry => entry.1 = k with
  | none =>
      have hnone := List.find?_eq_none.mp hget (k, v) h
      simp at hnone
  | some entry =>
      have hkey : entry.1 = k := by simpa using List.find?_some hget
      have hmem := List.mem_of_find?_eq_some hget
      have heq : entry = (k, v) :=
        List.inj_on_of_nodup_map d.nodup hmem h hkey
      simp [get?, hget, heq]

theorem get?_eq_some_iff {d : OrderedDict κ ν} {k : κ} {v : ν} :
    d.get? k = some v ↔ (k, v) ∈ d.entries :=
  ⟨mem_entries_of_get?, get?_of_mem_entries⟩

theorem mem_keys_iff {d : OrderedDict κ ν} {k : κ} :
    k ∈ d.keys ↔ ∃ v, d.get? k = some v := by
  simp [keys, get?_eq_some_iff]

/-! ## Lookups after an update -/

theorem get?_filter {d : OrderedDict κ ν} {p : κ × ν → Bool} {k : κ} :
    (d.filter p).get? k = (d.get? k).filter fun v => p (k, v) := by
  ext v
  simp [get?_eq_some_iff, filter, Option.filter_eq_some_iff]

theorem get?_mapValues {d : OrderedDict κ ν} {f : κ → ν → μ} {k : κ} :
    (d.mapValues f).get? k = (d.get? k).map (f k) := by
  ext v
  simp only [get?_eq_some_iff, mapValues, List.mem_map, Prod.mk.injEq,
    Option.map_eq_some_iff]
  constructor
  · rintro ⟨⟨k', v'⟩, hmem, rfl, rfl⟩
    exact ⟨v', hmem, rfl⟩
  · rintro ⟨v', hmem, rfl⟩
    exact ⟨(k, v'), hmem, rfl, rfl⟩

@[simp] theorem get?_set_self {d : OrderedDict κ ν} {k : κ} {v : ν} :
    (d.set k v).get? k = some v := by
  by_cases hk : k ∈ d.keys
  · obtain ⟨v', hv'⟩ := mem_keys_iff.mp hk
    rw [set, dif_pos hk, get?_mapValues, hv']
    simp
  · rw [set, dif_neg hk, get?_eq_some_iff]
    simp

theorem get?_set_of_ne {d : OrderedDict κ ν} {k k' : κ} {v : ν}
    (hne : k' ≠ k) : (d.set k v).get? k' = d.get? k' := by
  by_cases hk : k ∈ d.keys
  · rw [set, dif_pos hk, get?_mapValues]
    simp [hne]
  · ext v'
    rw [set, dif_neg hk, get?_eq_some_iff, get?_eq_some_iff]
    simp [hne]

theorem get?_set {d : OrderedDict κ ν} {k k' : κ} {v : ν} :
    (d.set k v).get? k' = if k' = k then some v else d.get? k' := by
  split
  next h => rw [h, get?_set_self]
  next h => exact get?_set_of_ne h

theorem get?_setDefault {d : OrderedDict κ ν} {k k' : κ} {v : ν} :
    (d.setDefault k v).get? k' =
      (d.get? k').or (if k' = k then some v else none) := by
  by_cases hk : k ∈ d.keys
  · obtain ⟨v', hv'⟩ := mem_keys_iff.mp hk
    rw [setDefault, if_pos hk]
    split
    next heq => rw [heq, hv', Option.some_or]
    next => rw [Option.or_none]
  · rw [setDefault, if_neg hk, get?_set]
    split
    next heq =>
      have hnone : d.get? k' = none := by
        rw [Option.eq_none_iff_forall_ne_some, heq]
        intro v' hv'
        exact hk (mem_keys_iff.mpr ⟨v', hv'⟩)
      rw [hnone, Option.none_or]
    next => rw [Option.or_none]

/-- Offering one value under several keys. -/
theorem get?_foldl_setDefault {d : OrderedDict κ ν} {keys : List κ} {k : κ}
    {v : ν} :
    (keys.foldl (fun d k => d.setDefault k v) d).get? k =
      (d.get? k).or (if k ∈ keys then some v else none) := by
  induction keys generalizing d with
  | nil => simp
  | cons k' keys ih =>
      rw [List.foldl_cons, ih, get?_setDefault, Option.or_assoc]
      congr 1
      by_cases hk : k = k'
      · simp [hk]
      · simp [hk]

@[simp] theorem get?_erase_self {d : OrderedDict κ ν} {k : κ} :
    (d.erase k).get? k = none := by
  simp [erase, get?_filter]

theorem get?_erase_of_ne {d : OrderedDict κ ν} {k k' : κ}
    (hne : k' ≠ k) : (d.erase k).get? k' = d.get? k' := by
  rw [erase, get?_filter]
  cases d.get? k' with
  | none => rfl
  | some v => simp [hne]

theorem get?_erase {d : OrderedDict κ ν} {k k' : κ} :
    (d.erase k).get? k' = if k' = k then none else d.get? k' := by
  split
  next h => rw [h, get?_erase_self]
  next h => exact get?_erase_of_ne h

/-- An entry after `set` is the new one or an old one under another key. -/
theorem get?_set_cases {d : OrderedDict κ ν} {k k' : κ} {v v' : ν}
    (h : (d.set k v).get? k' = some v') :
    k = k' ∧ v = v' ∨ k' ≠ k ∧ d.get? k' = some v' := by
  rw [get?_set] at h
  split at h
  next heq => exact Or.inl ⟨heq.symm, Option.some.inj h⟩
  next hne => exact Or.inr ⟨hne, h⟩

/-- An entry after `erase` is an old one under another key. -/
theorem get?_erase_cases {d : OrderedDict κ ν} {k k' : κ} {v : ν}
    (h : (d.erase k).get? k' = some v) : k' ≠ k ∧ d.get? k' = some v := by
  rw [get?_erase] at h
  split at h
  next => cases h
  next hne => exact ⟨hne, h⟩

theorem mapValues_eq_self {d : OrderedDict κ ν} {f : κ → ν → ν}
    (h : ∀ k v, d.get? k = some v → f k v = v) : d.mapValues f = d := by
  rcases d with ⟨entries, nodup⟩
  have hentries : (entries.map fun entry => (entry.1, f entry.1 entry.2)) =
      entries := by
    conv_rhs => rw [← List.map_id' entries]
    apply List.map_congr_left
    intro entry hentry
    rw [h entry.1 entry.2 (get?_of_mem_entries hentry)]
  simp only [mapValues, hentries]

/-- What holds of all entries and of a new one holds after `set`. -/
theorem forall_set {d : OrderedDict κ ν} {P : κ → ν → Prop} {k : κ} {v : ν}
    (hold : ∀ k v, d.get? k = some v → P k v) (hnew : P k v) :
    ∀ k' v', (d.set k v).get? k' = some v' → P k' v' := by
  intro k' v' h
  rcases get?_set_cases h with ⟨rfl, rfl⟩ | ⟨-, h⟩
  · exact hnew
  · exact hold k' v' h

/-- What holds of all entries holds after `erase`. -/
theorem forall_erase {d : OrderedDict κ ν} {P : κ → ν → Prop} {k : κ}
    (hold : ∀ k v, d.get? k = some v → P k v) :
    ∀ k' v', (d.erase k).get? k' = some v' → P k' v' := by
  intro k' v' h
  exact hold k' v' (get?_erase_cases h).2

/-! ## Filtering after an update -/

omit [DecidableEq κ] in
theorem ext_entries {d d' : OrderedDict κ ν} (h : d.entries = d'.entries) :
    d = d' := by
  rcases d with ⟨entries, _⟩
  rcases d' with ⟨entries', _⟩
  obtain rfl : entries = entries' := h
  rfl

/-- Rewriting values does not change which entries are kept, when the test
gives the same answer before and after. -/
theorem filter_mapValues {d : OrderedDict κ ν} {f : κ → ν → ν}
    {p : κ × ν → Bool}
    (h : ∀ k v, d.get? k = some v → p (k, f k v) = p (k, v)) :
    (d.mapValues f).filter p = (d.filter p).mapValues f := by
  apply ext_entries
  change ((d.entries.map _).filter p) = (d.entries.filter p).map _
  rw [List.filter_map]
  congr 1
  apply List.filter_congr
  intro entry hentry
  exact h entry.1 entry.2 (get?_of_mem_entries hentry)

theorem mem_keys_filter_iff {d : OrderedDict κ ν} {p : κ × ν → Bool} {k : κ}
    (h : ∀ v, d.get? k = some v → p (k, v) = true) :
    k ∈ (d.filter p).keys ↔ k ∈ d.keys := by
  rw [mem_keys_iff, mem_keys_iff]
  constructor
  · rintro ⟨v, hv⟩
    rw [get?_filter, Option.filter_eq_some_iff] at hv
    exact ⟨v, hv.1⟩
  · rintro ⟨v, hv⟩
    refine ⟨v, ?_⟩
    rw [get?_filter, hv]
    simp [h v hv]

/-- Writing an entry that is kept over one that was kept. -/
theorem filter_set_of_kept {d : OrderedDict κ ν} {p : κ × ν → Bool} {k : κ}
    {v : ν} (hnew : p (k, v) = true)
    (hold : ∀ v', d.get? k = some v' → p (k, v') = true) :
    (d.set k v).filter p = (d.filter p).set k v := by
  have hkeys := mem_keys_filter_iff hold
  by_cases hk : k ∈ d.keys
  · rw [set, dif_pos hk, set, dif_pos (hkeys.mpr hk)]
    apply filter_mapValues
    intro k' v' hv'
    split
    next heq =>
      subst heq
      rw [hnew, hold v' hv']
    next => rfl
  · rw [set, dif_neg hk, set, dif_neg (mt hkeys.mp hk)]
    apply ext_entries
    simp [filter, hnew]

/-- Writing an entry that is left out over one that was left out. -/
theorem filter_set_of_left_out {d : OrderedDict κ ν} {p : κ × ν → Bool}
    {k : κ} {v : ν} (hnew : p (k, v) = false)
    (hold : ∀ v', d.get? k = some v' → p (k, v') = false) :
    (d.set k v).filter p = d.filter p := by
  by_cases hk : k ∈ d.keys
  · rw [set, dif_pos hk]
    have hsame : ∀ k' v', d.get? k' = some v' →
        p (k', if k' = k then v else v') = p (k', v') := by
      intro k' v' hv'
      split
      next heq =>
        subst heq
        rw [hnew, hold v' hv']
      next => rfl
    rw [filter_mapValues hsame]
    apply mapValues_eq_self
    intro k' v' hv'
    rw [get?_filter, Option.filter_eq_some_iff] at hv'
    rw [if_neg]
    rintro rfl
    rw [hold v' hv'.1] at hv'
    cases hv'.2
  · rw [set, dif_neg hk]
    apply ext_entries
    simp [filter, hnew]

/-! ## Folding over the entries of a dictionary -/

private theorem find?_eq_none_of_notMem_keys
    {entries : List (κ × μ)} {k : κ} (hk : k ∉ entries.map Prod.fst) :
    (entries.find? fun entry => entry.1 = k) = none := by
  rw [List.find?_eq_none]
  intro entry hentry
  have hne : entry.1 ≠ k := by
    rintro rfl
    exact hk (List.mem_map_of_mem hentry)
  simpa using hne

private theorem get?_foldl_list
    {step : OrderedDict κ ν → κ × μ → OrderedDict κ ν}
    {u : κ → μ → Option ν → Option ν}
    (hself : ∀ d k a, (step d (k, a)).get? k = u k a (d.get? k))
    (hother : ∀ d k a k', k' ≠ k → (step d (k, a)).get? k' = d.get? k')
    (k : κ) (entries : List (κ × μ)) (hnodup : (entries.map Prod.fst).Nodup)
    (d : OrderedDict κ ν) :
    (entries.foldl step d).get? k =
      match (entries.find? fun entry => entry.1 = k).map Prod.snd with
      | some a => u k a (d.get? k)
      | none => d.get? k := by
  induction entries generalizing d with
  | nil => rfl
  | cons entry rest ih =>
      obtain ⟨k', a⟩ := entry
      simp only [List.map_cons, List.nodup_cons] at hnodup
      rw [List.foldl_cons, ih hnodup.2]
      by_cases hk : k' = k
      · subst hk
        rw [find?_eq_none_of_notMem_keys hnodup.1]
        simp [hself]
      · rw [hother d k' a k (Ne.symm hk)]
        simp [hk]

/-- Folding an update of one key at a time over the entries of `current`
updates each key of `current` once and leaves the other keys alone. -/
theorem get?_foldl_entries
    {step : OrderedDict κ ν → κ × μ → OrderedDict κ ν}
    {u : κ → μ → Option ν → Option ν}
    (hself : ∀ d k a, (step d (k, a)).get? k = u k a (d.get? k))
    (hother : ∀ d k a k', k' ≠ k → (step d (k, a)).get? k' = d.get? k')
    (current : OrderedDict κ μ) (d : OrderedDict κ ν) (k : κ) :
    (current.entries.foldl step d).get? k =
      match current.get? k with
      | some a => u k a (d.get? k)
      | none => d.get? k :=
  get?_foldl_list hself hother k current.entries current.nodup d

omit [DecidableEq κ] in
/-- Collecting at most one item for each entry, tagged with the entry's key,
gives items with distinct tags. -/
theorem nodup_map_filterMap_entries
    {ι : Type*} (d : OrderedDict κ ν) {collect : κ × ν → Option ι}
    {tag : ι → κ}
    (htag : ∀ entry item, collect entry = some item → tag item = entry.1) :
    ((d.entries.filterMap collect).map tag).Nodup := by
  refine d.nodup.sublist ?_
  induction d.entries with
  | nil => simp
  | cons entry rest ih =>
      cases hcollect : collect entry with
      | none =>
          rw [List.filterMap_cons_none hcollect]
          exact ih.cons entry.1
      | some item =>
          rw [List.filterMap_cons_some hcollect, List.map_cons, List.map_cons,
            htag entry item hcollect]
          exact ih.cons_cons entry.1

end OrderedDict
