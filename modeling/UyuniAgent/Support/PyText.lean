import Mathlib.Data.List.Basic
import Mathlib.Data.List.DropRight
import Mathlib.Data.List.Infix

/-!
# String operations of Python

The methods of `str` on the characters of a string, the parsing of a decimal
integer, and `fnmatch`.  A search for text in lower case is exact only for
needles that no character outside ASCII can lower to.
-/

namespace PyText

/-! ## White space -/

def isSpace (c : Char) : Bool :=
  (9 ≤ c.toNat && c.toNat ≤ 13) || (28 ≤ c.toNat && c.toNat ≤ 32) ||
    (0x2000 ≤ c.toNat && c.toNat ≤ 0x200a) ||
    c.toNat ∈ [0x85, 0xa0, 0x1680, 0x2028, 0x2029, 0x202f, 0x205f, 0x3000]

def strip (text : String) : String :=
  String.ofList ((text.toList.dropWhile isSpace).rdropWhile isSpace)

theorem strip_infix (text : String) : (strip text).toList <:+: text.toList := by
  rw [strip, String.toList_ofList]
  exact (List.rdropWhile_prefix _ _).isInfix.trans
    (List.dropWhile_suffix _).isInfix

/-- A stripped text does not end in white space. -/
theorem isSpace_getLast?_strip {text : String} {c : Char}
    (h : (strip text).toList.getLast? = some c) : isSpace c = false := by
  rw [strip, String.toList_ofList] at h
  obtain ⟨hne, rfl⟩ := List.mem_getLast?_eq_getLast h
  simpa using List.rdropWhile_last_not _ _ hne

theorem strip_eq_self {text : String}
    (hfirst : ∀ c ∈ text.toList.head?, isSpace c = false)
    (hlast : ∀ c ∈ text.toList.getLast?, isSpace c = false) :
    strip text = text := by
  have hleft : text.toList.dropWhile isSpace = text.toList := by
    rcases hletters : text.toList with _ | ⟨c, letters⟩
    · rfl
    · rw [List.dropWhile_cons_of_neg]
      simp [hfirst c (by rw [hletters]; rfl)]
  have hright : text.toList.rdropWhile isSpace = text.toList := by
    rw [List.rdropWhile_eq_self_iff]
    intro hne
    simp [hlast _ (List.getLast?_eq_some_getLast hne)]
  rw [strip, hleft, hright, String.ofList_toList]

/-- `text.lstrip(chars)` for a single character. -/
def lstripChar (c : Char) (text : String) : String :=
  String.ofList (text.toList.dropWhile (· = c))

/-- `text.rstrip(chars)` for a single character. -/
def rstripChar (c : Char) (text : String) : String :=
  String.ofList (text.toList.rdropWhile (· = c))

def isLineBreak (c : Char) : Bool :=
  (10 ≤ c.toNat && c.toNat ≤ 13) || (28 ≤ c.toNat && c.toNat ≤ 30) ||
    c.toNat ∈ [0x85, 0x2028, 0x2029]

theorem isLineBreak_eq_false {c : Char} (h : isSpace c = false) :
    isLineBreak c = false := by
  simp only [isSpace, isLineBreak, Bool.or_eq_false_iff,
    Bool.and_eq_false_iff, decide_eq_false_iff_not] at h ⊢
  simp at h ⊢
  omega

/-- The lines of a text, with the line under way in reverse. -/
def linesFrom : List Char → List Char → List (List Char)
  | line, [] => if line.isEmpty then [] else [line.reverse]
  | line, '\r' :: '\n' :: rest => line.reverse :: linesFrom [] rest
  | line, c :: rest =>
      if isLineBreak c then line.reverse :: linesFrom [] rest
      else linesFrom (c :: line) rest

def splitlines (text : String) : List String :=
  (linesFrom [] text.toList).map String.ofList

theorem linesFrom_line {letters : List Char}
    (hletters : ∀ c ∈ letters, isLineBreak c = false)
    (line rest : List Char) :
    linesFrom line (letters ++ '\n' :: rest) =
      (line.reverse ++ letters) :: linesFrom [] rest := by
  induction letters generalizing line with
  | nil =>
      rw [List.nil_append, List.append_nil, linesFrom]
      · rw [if_pos (by decide)]
      · intro rest' hreturn
        cases hreturn
  | cons c letters ih =>
      have hc := hletters c List.mem_cons_self
      rw [List.cons_append, linesFrom]
      · rw [if_neg (by simp [hc]), ih
          (fun d hd => hletters d (List.mem_cons_of_mem c hd)),
          List.reverse_cons, List.append_assoc, List.singleton_append]
      · intro rest' hreturn
        rw [hreturn] at hc
        cases hc

theorem linesFrom_last {letters : List Char}
    (hletters : ∀ c ∈ letters, isLineBreak c = false) (line : List Char) :
    linesFrom line letters =
      if line.reverse ++ letters = [] then [] else
        [line.reverse ++ letters] := by
  induction letters generalizing line with
  | nil =>
      rw [linesFrom, List.append_nil]
      rcases line with _ | ⟨c, line⟩ <;> simp
  | cons c letters ih =>
      have hc := hletters c List.mem_cons_self
      rw [linesFrom]
      · rw [if_neg (by simp [hc]), ih
          (fun d hd => hletters d (List.mem_cons_of_mem c hd)),
          List.reverse_cons, List.append_assoc, List.singleton_append]
      · intro rest' hreturn
        rw [hreturn] at hc
        cases hc

/-- The first line of a text ends at the first line feed. -/
theorem splitlines_line {line : String} (rest : String)
    (hline : ∀ c ∈ line.toList, isLineBreak c = false) :
    splitlines (line ++ "\n" ++ rest) = line :: splitlines rest := by
  have hletters : (line ++ "\n" ++ rest).toList =
      line.toList ++ '\n' :: rest.toList := by
    simp
  rw [splitlines, hletters, linesFrom_line hline, List.map_cons,
    List.reverse_nil, List.nil_append, String.ofList_toList, splitlines]

theorem splitlines_last {line : String} (hne : line ≠ "")
    (hline : ∀ c ∈ line.toList, isLineBreak c = false) :
    splitlines line = [line] := by
  rw [splitlines, linesFrom_last hline, List.reverse_nil, List.nil_append,
    if_neg (by simpa using hne), List.map_singleton, String.ofList_toList]

/-- No line contains a line break. -/
theorem isLineBreak_of_mem_linesFrom {letters line found : List Char}
    (hline : ∀ c ∈ line, isLineBreak c = false)
    (h : found ∈ linesFrom line letters) :
    ∀ c ∈ found, isLineBreak c = false := by
  induction line, letters using linesFrom.induct with
  | case1 line hempty =>
      rw [linesFrom, if_pos hempty] at h
      cases h
  | case2 line hempty =>
      rw [linesFrom, if_neg hempty] at h
      obtain rfl := List.mem_singleton.mp h
      simpa using hline
  | case3 line rest ih =>
      rw [linesFrom] at h
      rcases List.mem_cons.mp h with rfl | h
      · simpa using hline
      · exact ih (by simp) h
  | case4 line c rest hne hbreak ih =>
      rw [linesFrom, if_pos hbreak] at h
      · rcases List.mem_cons.mp h with rfl | h
        · simpa using hline
        · exact ih (by simp) h
      · exact hne
  | case5 line c rest hne hbreak ih =>
      rw [linesFrom, if_neg hbreak] at h
      · refine ih ?_ h
        intro d hd
        rcases List.mem_cons.mp hd with rfl | hd
        · exact eq_false_of_ne_true hbreak
        · exact hline d hd
      · exact hne

theorem isLineBreak_of_mem_splitlines {text line : String}
    (h : line ∈ splitlines text) :
    ∀ c ∈ line.toList, isLineBreak c = false := by
  obtain ⟨letters, hletters, rfl⟩ := List.mem_map.mp h
  rw [String.toList_ofList]
  exact isLineBreak_of_mem_linesFrom (by simp) hletters

/-- The fields of `split(None, splits)`. -/
def fieldsFrom : ℕ → List Char → List (List Char)
  | 0, text =>
      match (text.dropWhile isSpace).rdropWhile isSpace with
      | [] => []
      | rest => [rest]
  | splits + 1, text =>
      match text.dropWhile isSpace with
      | [] => []
      | rest =>
          rest.takeWhile (!isSpace ·) ::
            fieldsFrom splits (rest.dropWhile (!isSpace ·))

def split (text : String) (splits : ℕ) : List String :=
  (fieldsFrom splits text.toList).map String.ofList

/-- A field stands in front of white space, or at the end of the text. -/
theorem field_splits {splits : ℕ} {text field : List Char}
    (h : field ∈ fieldsFrom splits text) :
    ∃ before after, text = before ++ (field ++ after) ∧
      ∀ c ∈ after.head?, isSpace c = true := by
  induction splits generalizing text with
  | zero =>
      simp only [fieldsFrom] at h
      split at h
      · cases h
      · obtain rfl := List.mem_singleton.mp h
        refine ⟨text.takeWhile isSpace,
          (text.dropWhile isSpace).rtakeWhile isSpace, ?_, ?_⟩
        · rw [List.rdropWhile_append_rtakeWhile,
            List.takeWhile_append_dropWhile]
        · intro c hc
          exact List.mem_rtakeWhile_imp (List.mem_of_mem_head? hc)
  | succ splits ih =>
      simp only [fieldsFrom] at h
      split at h
      · cases h
      next rest hrest =>
        have htext : text =
            text.takeWhile isSpace ++ text.dropWhile isSpace :=
          List.takeWhile_append_dropWhile.symm
        rcases List.mem_cons.mp h with rfl | h
        · refine ⟨text.takeWhile isSpace,
            (text.dropWhile isSpace).dropWhile (!isSpace ·), ?_, ?_⟩
          · rw [List.takeWhile_append_dropWhile,
              List.takeWhile_append_dropWhile]
          · intro c hc
            have hstop := List.head?_dropWhile_not (!isSpace ·)
              (text.dropWhile isSpace)
            rw [Option.mem_def.mp hc] at hstop
            simpa using hstop
        · obtain ⟨before, after, hsplit, hspace⟩ := ih h
          refine ⟨text.takeWhile isSpace ++
            ((text.dropWhile isSpace).takeWhile (!isSpace ·) ++ before),
            after, ?_, hspace⟩
          rw [List.append_assoc, List.append_assoc, ← hsplit,
            List.takeWhile_append_dropWhile,
            List.takeWhile_append_dropWhile]

/-! ## Parts of a text -/

def startsWith (text head : String) : Bool :=
  head.toList.isPrefixOf text.toList

theorem startsWith_iff {text head : String} :
    startsWith text head = true ↔ head.toList <+: text.toList :=
  List.isPrefixOf_iff_prefix

theorem startsWith_append (head rest : String) :
    startsWith (head ++ rest) head = true := by
  rw [startsWith_iff, String.toList_append]
  exact List.prefix_append _ _

/-- Texts that one text begins with agree in their first character. -/
theorem startsWith_of_head_ne {text head other : String}
    (h : startsWith text head = true) (hhead : head ≠ "") (hother : other ≠ "")
    (hne : head.toList.head? ≠ other.toList.head?) :
    startsWith text other = false := by
  by_contra hstarts
  rw [Bool.not_eq_false, startsWith_iff] at hstarts
  rw [startsWith_iff] at h
  obtain ⟨rest, hrest⟩ := h
  obtain ⟨rest', hrest'⟩ := hstarts
  rcases hfirst : head.toList with _ | ⟨c, cs⟩
  · exact hhead (String.toList_eq_nil_iff.mp hfirst)
  · rcases hsecond : other.toList with _ | ⟨d, ds⟩
    · exact hother (String.toList_eq_nil_iff.mp hsecond)
    · rw [hfirst] at hrest hne
      rw [hsecond] at hrest' hne
      rw [← hrest] at hrest'
      injection hrest' with hsame
      exact hne (by rw [hsame]; rfl)

/-- Texts with a mark after them that is in neither are equal up to the
mark. -/
theorem append_mark_inj {mark : Char} {first second rest rest' : List Char}
    (hfirst : mark ∉ first) (hsecond : mark ∉ second)
    (h : first ++ mark :: rest = second ++ mark :: rest') :
    first = second ∧ rest = rest' := by
  induction first generalizing second with
  | nil =>
      rcases second with _ | ⟨c, second⟩
      · exact ⟨rfl, (List.cons.inj h).2⟩
      · obtain ⟨rfl, -⟩ := List.cons.inj h
        exact absurd List.mem_cons_self hsecond
  | cons d first ih =>
      rcases second with _ | ⟨c, second⟩
      · obtain ⟨rfl, -⟩ := List.cons.inj h
        exact absurd List.mem_cons_self hfirst
      · obtain ⟨rfl, htail⟩ := List.cons.inj h
        obtain ⟨rfl, hrest⟩ := ih (List.not_mem_of_not_mem_cons hfirst)
          (List.not_mem_of_not_mem_cons hsecond) htail
        exact ⟨rfl, hrest⟩

def endsWith (text tail : String) : Bool :=
  tail.toList.isSuffixOf text.toList

/-- `needle in text`. -/
def contains (text needle : String) : Bool :=
  text.toList.tails.any fun rest => needle.toList.isPrefixOf rest

theorem contains_iff {text needle : String} :
    contains text needle = true ↔ needle.toList <:+: text.toList := by
  rw [contains, List.any_eq_true, List.infix_iff_prefix_suffix]
  constructor
  · rintro ⟨rest, hrest, hprefix⟩
    exact ⟨rest, List.isPrefixOf_iff_prefix.mp hprefix,
      (List.mem_tails rest _).mp hrest⟩
  · rintro ⟨rest, hprefix, hsuffix⟩
    exact ⟨rest, (List.mem_tails rest _).mpr hsuffix,
      List.isPrefixOf_iff_prefix.mpr hprefix⟩

theorem contains_append (before needle rest : String) :
    contains (before ++ needle ++ rest) needle = true := by
  rw [contains_iff, String.toList_append, String.toList_append]
  exact List.infix_append _ _ _

/-- `text[:count]`. -/
def take (count : ℕ) (text : String) : String :=
  String.ofList (text.toList.take count)

/-- `text.lower()` on the letters of ASCII. -/
def lower (text : String) : String :=
  String.ofList (text.toList.map Char.toLower)

/-- The text from the first `first` to the last `last`; nothing when one is
missing or the last one stands before the first one. -/
def between (first last : Char) (text : String) : Option String :=
  match (text.toList.dropWhile (· ≠ first)).rdropWhile (· ≠ last) with
  | [] => none
  | part => some (String.ofList part)

/-- What is dropped at the end stops before an element to keep. -/
theorem prefix_rdropWhile {p : Char → Bool} {head rest : List Char}
    {last : Char} (hlast : p last = false) :
    head ++ [last] <+: (head ++ [last] ++ rest).rdropWhile p := by
  induction rest using List.reverseRecOn with
  | nil =>
      have hkept : (head ++ [last]).rdropWhile p = head ++ [last] := by
        rw [List.rdropWhile_concat, if_neg (by simp [hlast])]
      exact ⟨[], by rw [List.append_nil, hkept]⟩
  | append_singleton rest c ih =>
      rw [← List.append_assoc, List.rdropWhile_concat]
      split
      · exact ih
      · rw [List.append_assoc]
        exact List.prefix_append _ _

/-- A head without white space at its ends survives stripping. -/
theorem startsWith_strip {text head : String} {first last : Char}
    {middle : List Char} (hhead : head.toList = first :: middle ++ [last])
    (hfirst : isSpace first = false) (hlast : isSpace last = false)
    (h : startsWith text head = true) : startsWith (strip text) head = true := by
  rw [startsWith_iff] at h ⊢
  obtain ⟨rest, hrest⟩ := h
  have hdrop : text.toList.dropWhile isSpace =
      (first :: middle) ++ [last] ++ rest := by
    rw [← hrest, hhead]
    simp [hfirst]
  rw [strip, String.toList_ofList, hdrop, hhead]
  exact prefix_rdropWhile hlast

/-! ## Integers -/

/-- The zeros of the decimal digit systems of Unicode. -/
def decimalZeros : List ℕ :=
  [0x30, 0x660, 0x6f0, 0x7c0, 0x966, 0x9e6, 0xa66, 0xae6, 0xb66, 0xbe6, 0xc66,
    0xce6, 0xd66, 0xde6, 0xe50, 0xed0, 0xf20, 0x1040, 0x1090, 0x17e0, 0x1810,
    0x1946, 0x19d0, 0x1a80, 0x1a90, 0x1b50, 0x1bb0, 0x1c40, 0x1c50, 0xa620,
    0xa8d0, 0xa900, 0xa9d0, 0xa9f0, 0xaa50, 0xabf0, 0xff10, 0x104a0, 0x10d30,
    0x11066, 0x110f0, 0x11136, 0x111d0, 0x112f0, 0x11450, 0x114d0, 0x11650,
    0x116c0, 0x11730, 0x118e0, 0x11950, 0x11c50, 0x11d50, 0x11da0, 0x16a60,
    0x16ac0, 0x16b50, 0x1d7ce, 0x1d7d8, 0x1d7e2, 0x1d7ec, 0x1d7f6, 0x1e140,
    0x1e2f0, 0x1e950, 0x1fbf0]

def digit? (c : Char) : Option ℕ :=
  decimalZeros.findSome? fun start =>
    if start ≤ c.toNat ∧ c.toNat < start + 10 then some (c.toNat - start)
    else none

/-- The longest sequence of digits that `int` reads from a text. -/
def maxIntDigits : ℕ := 4300

/-- The value of a sequence of digits, `none` when it has too many. -/
def ofDigits (digits : List ℕ) : Option ℕ :=
  if digits.length ≤ maxIntDigits then
    some (digits.foldl (fun value digit => 10 * value + digit) 0)
  else none

/-- The digits of an integer literal, which single underscores may separate. -/
def digitsOf : List Char → Option (List ℕ)
  | [] => none
  | [c] => (digit? c).map fun d => [d]
  | c :: '_' :: rest =>
      match digit? c, digitsOf rest with
      | some d, some digits => some (d :: digits)
      | _, _ => none
  | c :: rest =>
      match digit? c, digitsOf rest with
      | some d, some digits => some (d :: digits)
      | _, _ => none

/-- The white space around a number.  The separators of ASCII, which `strip`
takes off, are none. -/
def isNumberSpace (c : Char) : Bool :=
  isSpace c && !(28 ≤ c.toNat && c.toNat ≤ 31)

def stripNumber (text : String) : List Char :=
  (text.toList.dropWhile isNumberSpace).rdropWhile isNumberSpace

/-- `int(text)`, `none` when it raises `ValueError`. -/
def toInt? (text : String) : Option ℤ :=
  match stripNumber text with
  | '-' :: rest => (digitsOf rest).bind ofDigits |>.map fun n => -(n : ℤ)
  | '+' :: rest => (digitsOf rest).bind ofDigits |>.map fun n => (n : ℤ)
  | rest => (digitsOf rest).bind ofDigits |>.map fun n => (n : ℤ)

/-- What stands in a text, and is no white space around a number, is part of
the number. -/
theorem mem_stripNumber {text : String} {c : Char} (hc : c ∈ text.toList)
    (hspace : isNumberSpace c = false) : c ∈ stripNumber text := by
  have hright : ∀ letters : List Char, c ∈ letters →
      c ∈ letters.rdropWhile isNumberSpace := by
    intro letters hmem
    rw [← List.rdropWhile_append_rtakeWhile (p := isNumberSpace)
      (l := letters), List.mem_append] at hmem
    rcases hmem with hkept | hdropped
    · exact hkept
    · exact absurd (List.mem_rtakeWhile_imp hdropped) (by simp [hspace])
  have hleft : c ∈ text.toList.dropWhile isNumberSpace := by
    rw [← List.takeWhile_append_dropWhile (p := isNumberSpace)
      (l := text.toList), List.mem_append] at hc
    rcases hc with hdropped | hkept
    · exact absurd (List.mem_takeWhile_imp hdropped) (by simp [hspace])
    · exact hkept
  exact hright _ hleft

/-- No digit stands before the one of ASCII. -/
theorem digit?_eq_none {c : Char} (hc : c.toNat < 0x30) : digit? c = none := by
  have hstart : ∀ start ∈ decimalZeros, 0x30 ≤ start := by decide
  rw [digit?, List.findSome?_eq_none_iff]
  intro start hmem
  have hle := hstart start hmem
  rw [if_neg (by omega)]

theorem mem_digitsOf {letters : List Char} {digits : List ℕ}
    (h : digitsOf letters = some digits) {c : Char} (hc : c ∈ letters) :
    c = '_' ∨ (digit? c).isSome = true := by
  induction letters using digitsOf.induct generalizing digits with
  | case1 => cases hc
  | case2 d =>
      obtain rfl := List.mem_singleton.mp hc
      rw [digitsOf] at h
      obtain ⟨value, hvalue, -⟩ := Option.map_eq_some_iff.mp h
      exact Or.inr (by rw [hvalue]; rfl)
  | case3 d rest value digits' hdigits hvalue ih =>
      rcases List.mem_cons.mp hc with rfl | hc
      · exact Or.inr (by rw [hvalue]; rfl)
      · rcases List.mem_cons.mp hc with rfl | hc
        · exact Or.inl rfl
        · exact ih hdigits hc
  | case4 d rest hnot ih =>
      rw [digitsOf] at h
      split at h
      next value digits' hvalue hdigits => exact absurd hdigits (hnot _ _ hvalue)
      next => cases h
  | case5 d rest hone hunderscore value digits' hdigits hvalue ih =>
      rcases List.mem_cons.mp hc with rfl | hc
      · exact Or.inr (by rw [hvalue]; rfl)
      · exact ih hdigits hc
  | case6 d rest hone hunderscore hnot ih =>
      rw [digitsOf] at h
      · split at h
        next value digits' hvalue hdigits =>
          exact absurd hdigits (hnot _ _ hvalue)
        next => cases h
      · exact hone
      · exact hunderscore

/-- A text with one of the separators of ASCII is no integer, also when
`strip` would take it off. -/
theorem toInt?_eq_none_of_separator {text : String} {c : Char}
    (hc : c ∈ text.toList) (hlow : 28 ≤ c.toNat) (hhigh : c.toNat ≤ 31) :
    toInt? text = none := by
  have hspace : isNumberSpace c = false := by
    simp [isNumberSpace, hlow, hhigh]
  have hkept := mem_stripNumber hc hspace
  have hnone : ∀ letters : List Char, c ∈ letters →
      digitsOf letters = none := by
    intro letters hmem
    rcases hdigits : digitsOf letters with _ | digits
    · rfl
    · rcases mem_digitsOf hdigits hmem with rfl | hdigit
      · simp at hlow hhigh
      · rw [digit?_eq_none (by omega)] at hdigit
        cases hdigit
  unfold toInt?
  split
  next rest hrest =>
    rw [hrest] at hkept
    rcases List.mem_cons.mp hkept with rfl | hmem
    · simp at hlow hhigh
    · rw [hnone rest hmem]
      rfl
  next rest hrest =>
    rw [hrest] at hkept
    rcases List.mem_cons.mp hkept with rfl | hmem
    · simp at hlow hhigh
    · rw [hnone rest hmem]
      rfl
  next rest _ _ =>
    rw [hnone _ hkept]
    rfl

example : toInt? "\x1c1" = none :=
  toInt?_eq_none_of_separator (c := Char.ofNat 28) (by decide) (by decide)
    (by decide)

example : toInt? "\u00a0 1_0\n" = some 10 := by
  decide +kernel

/-! ## Shell patterns -/

/-- One element of an `fnmatch` pattern. -/
inductive Glob
  | star
  | any
  | literal (c : Char)
  | set (negated : Bool) (ranges : List (Char × Char))
  deriving DecidableEq

/-- The ranges of a bracket expression; a hyphen at either end stands for
itself. -/
def globRanges : List Char → List (Char × Char)
  | [] => []
  | low :: '-' :: high :: rest => (low, high) :: globRanges rest
  | c :: rest => (c, c) :: globRanges rest

/-- The inside of a bracket expression and what follows it.  A closing bracket
in the first place belongs to the inside. -/
def bracketed : List Char → Option (List Char × List Char)
  | [] => none
  | first :: rest =>
      match rest.dropWhile (· ≠ ']') with
      | [] => none
      | _ :: after => some (first :: rest.takeWhile (· ≠ ']'), after)

/-- The elements of a pattern; the fuel is the length of the pattern. -/
def globItems : ℕ → List Char → List Glob
  | 0, _ => []
  | _ + 1, [] => []
  | fuel + 1, '*' :: rest => .star :: globItems fuel rest
  | fuel + 1, '?' :: rest => .any :: globItems fuel rest
  | fuel + 1, '[' :: '!' :: rest =>
      match bracketed rest with
      | some (inside, after) =>
          .set true (globRanges inside) :: globItems fuel after
      | none => .literal '[' :: globItems fuel ('!' :: rest)
  | fuel + 1, '[' :: rest =>
      match bracketed rest with
      | some (inside, after) =>
          .set false (globRanges inside) :: globItems fuel after
      | none => .literal '[' :: globItems fuel rest
  | fuel + 1, c :: rest => .literal c :: globItems fuel rest

def inRanges (ranges : List (Char × Char)) (c : Char) : Bool :=
  ranges.any fun range => range.1 ≤ c && c ≤ range.2

def matchesGlob : List Glob → List Char → Bool
  | [], text => text.isEmpty
  | .star :: items, text => text.tails.any (matchesGlob items)
  | .any :: items, _ :: text => matchesGlob items text
  | .literal c :: items, d :: text => c = d && matchesGlob items text
  | .set negated ranges :: items, d :: text =>
      (inRanges ranges d != negated) && matchesGlob items text
  | _ :: _, [] => false

/-- `fnmatch(name, pattern)`. -/
def fnmatch (name pattern : String) : Bool :=
  matchesGlob (globItems pattern.length pattern.toList) name.toList

example : fnmatch "backup@db.service" "backup@*.service" = true := by
  decide +kernel

end PyText
