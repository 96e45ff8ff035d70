import UyuniAgent.Investigation.Grounding

/-!
# Citations in a composed text

What a text cites when it is put together from fixed words, identifiers and
names that come from outside.  A fixed text that begins and ends with a
character of no word keeps its neighbours apart, so that the whole cites what
the identifiers and the names cite on their own.
-/

namespace UyuniAgent.Investigation

variable {unicode : UnicodeData}

/-! ## Fixed texts -/

/-- A character of ASCII that belongs to no word. -/
def isGap (c : Char) : Bool :=
  c.toNat < 128 && !c.isAlphanum && c ≠ '_'

theorem isWord_of_isGap {c : Char} (h : isGap c = true) :
    unicode.isWord c = false := by
  simp only [isGap, Bool.and_eq_true, decide_eq_true_eq,
    Bool.not_eq_true'] at h
  obtain ⟨⟨hascii, halnum⟩, hunderscore⟩ := h
  rw [UnicodeData.isWord, unicode.isAlnum_ascii c hascii, halnum]
  simpa using hunderscore

/-- A text that ends what stands before it and cites nothing. -/
def closes (text : String) : Bool :=
  text.toList.head?.any isGap && !text.toList.contains 'E'

/-- A text that cites nothing and from which a new word begins. -/
def opens (text : String) : Bool :=
  text.toList.getLast?.any isGap && !text.toList.contains 'E'

theorem closes_ofList {cs : List Char}
    (h : (cs.head?.any isGap && !cs.contains 'E') = true) :
    closes (String.ofList cs) = true := by
  rw [closes, String.toList_ofList]
  exact h

theorem opens_ofList {cs : List Char}
    (h : (cs.getLast?.any isGap && !cs.contains 'E') = true) :
    opens (String.ofList cs) = true := by
  rw [opens, String.toList_ofList]
  exact h

/-! ## Splitting at a gap -/

/-- `citedEvidenceIds`, on characters. -/
def citedIn (unicode : UnicodeData) (cs : List Char) : List (List Char) :=
  (cs.splitOnP fun c => !unicode.isWord c).filter isEvidenceId

theorem citedEvidenceIds_eq (text : String) :
    citedEvidenceIds unicode text =
      (citedIn unicode text.toList).map String.ofList := rfl

theorem citedIn_append_cons (xs ys : List Char) {c : Char}
    (hgap : isGap c = true) :
    citedIn unicode (xs ++ c :: ys) =
      citedIn unicode xs ++ citedIn unicode ys := by
  have hsplit : (!unicode.isWord c) = true := by
    rw [isWord_of_isGap hgap]
    rfl
  rw [citedIn, List.splitOnP_append_cons xs ys hsplit, List.filter_append]
  rfl

theorem mem_of_mem_splitOnP {p : Char → Bool} {xs word : List Char}
    (h : word ∈ xs.splitOnP p) : ∀ c ∈ word, c ∈ xs := by
  induction xs generalizing word with
  | nil =>
      obtain rfl : word = [] := by simpa using h
      simp
  | cons x xs ih =>
      intro c hc
      rw [List.splitOnP_cons_eq_if_modifyHead] at h
      split at h
      · rcases List.mem_cons.mp h with rfl | hword
        · cases hc
        · exact List.mem_cons_of_mem x (ih hword c hc)
      · obtain ⟨first, rest, hsplit⟩ :=
          List.exists_cons_of_ne_nil (List.splitOnP_ne_nil p xs)
        rw [hsplit, List.modifyHead_cons] at h
        rcases List.mem_cons.mp h with rfl | hword
        · rcases List.mem_cons.mp hc with rfl | hc
          · exact List.mem_cons_self
          · have hfirst : first ∈ xs.splitOnP p := by
              rw [hsplit]
              exact List.mem_cons_self
            exact List.mem_cons_of_mem x (ih hfirst c hc)
        · have hrest : word ∈ xs.splitOnP p := by
            rw [hsplit]
            exact List.mem_cons_of_mem first hword
          exact List.mem_cons_of_mem x (ih hrest c hc)

theorem isEvidenceId_iff {cs : List Char} :
    isEvidenceId cs = true ↔ ∃ first digits, cs = 'E' :: first :: digits ∧
      ('1' ≤ first ∧ first ≤ '9') ∧ ∀ c ∈ digits, '0' ≤ c ∧ c ≤ '9' := by
  constructor
  · intro h
    unfold isEvidenceId at h
    split at h
    next first digits =>
      simp only [Bool.and_eq_true, decide_eq_true_eq, List.all_eq_true] at h
      exact ⟨first, digits, rfl, h⟩
    next => cases h
  · rintro ⟨first, digits, rfl, h⟩
    simp only [isEvidenceId, Bool.and_eq_true, decide_eq_true_eq,
      List.all_eq_true]
    exact h

/-- Every identifier has an `E`. -/
theorem citedIn_eq_nil {cs : List Char} (h : 'E' ∉ cs) :
    citedIn unicode cs = [] := by
  rw [citedIn, List.filter_eq_nil_iff]
  intro word hword hid
  obtain ⟨first, digits, rfl, -⟩ := isEvidenceId_iff.mp hid
  exact h (mem_of_mem_splitOnP hword 'E' List.mem_cons_self)

theorem citedEvidenceIds_eq_nil {text : String} (h : 'E' ∉ text.toList) :
    citedEvidenceIds unicode text = [] := by
  rw [citedEvidenceIds_eq, citedIn_eq_nil h, List.map_nil]

/-! ## Composition -/

variable (unicode)

theorem citedEvidenceIds_append_closes (head : String) {fixed : String}
    (h : closes fixed = true) :
    citedEvidenceIds unicode (head ++ fixed) =
      citedEvidenceIds unicode head := by
  simp only [closes, Bool.and_eq_true, Bool.not_eq_true'] at h
  obtain ⟨hhead, hplain⟩ := h
  rcases hfixed : fixed.toList with _ | ⟨c, cs⟩
  · rw [hfixed] at hhead
    cases hhead
  · rw [hfixed] at hhead hplain
    have hnone : 'E' ∉ cs := by
      intro hmem
      simp [hmem] at hplain
    rw [citedEvidenceIds_eq, citedEvidenceIds_eq, String.toList_append,
      hfixed, citedIn_append_cons _ _ (by simpa using hhead),
      citedIn_eq_nil hnone, List.append_nil]

theorem citedEvidenceIds_opens_append {fixed : String} (tail : String)
    (h : opens fixed = true) :
    citedEvidenceIds unicode (fixed ++ tail) =
      citedEvidenceIds unicode tail := by
  simp only [opens, Bool.and_eq_true, Bool.not_eq_true'] at h
  obtain ⟨hlast, hplain⟩ := h
  rcases List.eq_nil_or_concat fixed.toList with hnil | ⟨cs, c, hfixed⟩
  · rw [hnil] at hlast
    cases hlast
  · rw [List.concat_eq_append] at hfixed
    rw [hfixed] at hlast hplain
    have hnone : 'E' ∉ cs := by
      intro hmem
      simp [hmem] at hplain
    rw [citedEvidenceIds_eq, citedEvidenceIds_eq, String.toList_append,
      hfixed, List.append_assoc, List.singleton_append,
      citedIn_append_cons _ _ (by simpa using hlast), citedIn_eq_nil hnone,
      List.nil_append]

/-- A fixed text between two others keeps their citations apart. -/
theorem citedEvidenceIds_between (head tail : String) {fixed : String}
    (hcloses : closes fixed = true) (hopens : opens fixed = true) :
    citedEvidenceIds unicode (head ++ fixed ++ tail) =
      citedEvidenceIds unicode head ++ citedEvidenceIds unicode tail := by
  have hhead := citedEvidenceIds_append_closes unicode head hcloses
  simp only [opens, Bool.and_eq_true, Bool.not_eq_true'] at hopens
  obtain ⟨hlast, -⟩ := hopens
  rcases List.eq_nil_or_concat fixed.toList with hnil | ⟨cs, c, hfixed⟩
  · rw [hnil] at hlast
    cases hlast
  · rw [List.concat_eq_append] at hfixed
    rw [hfixed] at hlast
    have hgap : isGap c = true := by simpa using hlast
    rw [← hhead, citedEvidenceIds_eq, citedEvidenceIds_eq,
      citedEvidenceIds_eq, String.toList_append, String.toList_append, hfixed,
      ← List.append_assoc, List.append_assoc _ [c], List.singleton_append,
      citedIn_append_cons _ _ hgap, citedIn_append_cons _ _ hgap,
      citedIn_eq_nil List.not_mem_nil, List.append_nil, List.map_append]

/-! ## Numbers -/

/-- A number consists of digits and a sign. -/
theorem not_mem_toString {c : Char} (hdigit : c.isDigit = false)
    (hsign : c ≠ '-') (n : ℤ) : c ∉ (toString n).toList := by
  intro hmem
  have hdigits : ∀ m : ℕ, c ∉ m.repr.toList := by
    intro m hc
    rw [Nat.toList_repr] at hc
    have hletter := Nat.isDigit_of_mem_toDigits (by decide) (by decide) hc
    rw [hdigit] at hletter
    cases hletter
  rw [Int.toString_eq_repr, Int.repr_eq_if] at hmem
  split at hmem
  · exact hdigits _ hmem
  · rw [String.toList_append, List.mem_append] at hmem
    rcases hmem with hminus | hmem
    · exact hsign (List.mem_singleton.mp hminus)
    · exact hdigits _ hmem

theorem toString_ne_nil (n : ℤ) : (toString n).toList ≠ [] := by
  have hdigits : ∀ m : ℕ, m.repr.toList ≠ [] := by
    intro m
    rw [Nat.toList_repr]
    exact Nat.toDigits_ne_nil
  rw [Int.toString_eq_repr, Int.repr_eq_if]
  split
  · exact hdigits _
  · simp

theorem isPlain_toString (n : ℤ) : 'E' ∉ (toString n).toList :=
  not_mem_toString (by decide) (by decide) n

theorem not_mem_intercalate {c : Char} {separator : String}
    {texts : List String} (hseparator : c ∉ separator.toList)
    (htexts : ∀ text ∈ texts, c ∉ text.toList) :
    c ∉ (separator.intercalate texts).toList := by
  induction texts with
  | nil => simp
  | cons text texts ih =>
      have hrest := ih fun other hother =>
        htexts other (List.mem_cons_of_mem text hother)
      have htext := htexts text List.mem_cons_self
      rcases texts with _ | ⟨next, texts⟩
      · rw [String.intercalate_singleton]
        exact htext
      · rw [String.intercalate_cons_cons, String.toList_append,
          String.toList_append]
        simp only [List.mem_append, not_or]
        exact ⟨⟨htext, hseparator⟩, hrest⟩

/-- `", ".join(str(number) for number in numbers)`. -/
def joinedNumbers (numbers : List ℤ) : String :=
  ", ".intercalate (numbers.map toString)

theorem not_mem_joinedNumbers {c : Char} (hdigit : c.isDigit = false)
    (hsign : c ≠ '-') (hseparator : c ∉ ", ".toList) (numbers : List ℤ) :
    c ∉ (joinedNumbers numbers).toList := by
  refine not_mem_intercalate hseparator ?_
  intro text htext
  obtain ⟨number, -, rfl⟩ := List.mem_map.mp htext
  exact not_mem_toString hdigit hsign number

/-! ## Identifiers -/

/-- The identifier of the record at an index of a ledger. -/
def recordId (index : ℕ) : String :=
  "E" ++ toString (index + 1)

theorem toList_recordId (index : ℕ) :
    (recordId index).toList = 'E' :: Nat.toDigits 10 (index + 1) := by
  rw [recordId, String.toList_append, Nat.toString_eq_repr, Nat.toList_repr]
  rfl

theorem recordId_inj {i j : ℕ} (h : recordId i = recordId j) : i = j := by
  have hlist := congrArg String.toList h
  rw [toList_recordId, toList_recordId] at hlist
  injection hlist with _ hdigits
  have hnext := congrArg (Nat.ofDigitChars 10 · 0) hdigits
  simp only [Nat.ofDigitChars_ten_toDigits] at hnext
  omega

theorem digitChar_bounds :
    ∀ digit < 10, '0' ≤ Nat.digitChar digit ∧ Nat.digitChar digit ≤ '9' := by
  decide

theorem digitChar_pos_bounds :
    ∀ digit < 10, 0 < digit →
      '1' ≤ Nat.digitChar digit ∧ Nat.digitChar digit ≤ '9' := by
  decide

/-- The digits of a positive number do not begin with a zero. -/
theorem toDigits_of_pos {n : ℕ} (hn : 0 < n) :
    ∃ first digits, Nat.toDigits 10 n = first :: digits ∧
      ('1' ≤ first ∧ first ≤ '9') ∧ ∀ c ∈ digits, '0' ≤ c ∧ c ≤ '9' := by
  induction n using Nat.strong_induction_on with
  | _ n ih =>
      rcases Nat.lt_or_ge n 10 with hsmall | hlarge
      · exact ⟨n.digitChar, [], Nat.toDigits_of_lt_base hsmall,
          digitChar_pos_bounds n hsmall hn, by simp⟩
      · obtain ⟨first, digits, hdigits, hfirst, hrest⟩ :=
          ih (n / 10) (by omega) (by omega)
        refine ⟨first, digits ++ [(n % 10).digitChar], ?_, hfirst, ?_⟩
        · rw [Nat.toDigits_of_base_le (by decide) hlarge, hdigits,
            List.cons_append]
        · intro c hc
          rcases List.mem_append.mp hc with hc | hc
          · exact hrest c hc
          · obtain rfl := List.mem_singleton.mp hc
            exact digitChar_bounds _ (Nat.mod_lt n (by decide))

theorem isWord_of_digit {c : Char} (hlow : '0' ≤ c) (hhigh : c ≤ '9') :
    unicode.isWord c = true := by
  have hdigit : c.isDigit = true := Char.isDigit_iff_toNat.mpr ⟨hlow, hhigh⟩
  have hascii : c.toNat < 128 :=
    lt_of_le_of_lt (Char.isDigit_iff_toNat.mp hdigit).2 (by decide)
  rw [UnicodeData.isWord, unicode.isAlnum_ascii c hascii, Char.isAlphanum,
    hdigit]
  simp

/-- An identifier cites itself. -/
theorem citedEvidenceIds_recordId (index : ℕ) :
    citedEvidenceIds unicode (recordId index) = [recordId index] := by
  obtain ⟨first, digits, hdigits, hfirst, hrest⟩ :=
    toDigits_of_pos (Nat.succ_pos index)
  have hlist : (recordId index).toList = 'E' :: first :: digits := by
    rw [toList_recordId, ← hdigits]
  have hword : ∀ c ∈ 'E' :: first :: digits, (!unicode.isWord c) = false := by
    intro c hc
    rw [Bool.not_eq_false']
    rcases List.mem_cons.mp hc with rfl | hc
    · rw [UnicodeData.isWord, unicode.isAlnum_ascii 'E' (by decide)]
      decide
    · rcases List.mem_cons.mp hc with rfl | hc
      · have hzero : '0' ≤ '1' := by decide
        exact isWord_of_digit unicode (Char.le_trans hzero hfirst.1) hfirst.2
      · exact isWord_of_digit unicode (hrest c hc).1 (hrest c hc).2
  have hid : isEvidenceId ('E' :: first :: digits) = true :=
    isEvidenceId_iff.mpr ⟨first, digits, rfl, hfirst, hrest⟩
  rw [citedEvidenceIds_eq, hlist, citedIn, List.splitOnP_eq_singleton hword,
    List.filter_cons_of_pos hid, List.filter_nil, List.map_singleton,
    ← hlist, String.ofList_toList]

end UyuniAgent.Investigation
