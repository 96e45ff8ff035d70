import Mathlib.Data.List.Sort
import Mathlib.Data.String.Basic
import UyuniAgent.Support.PyValue

/-!
# Writing JSON, and reading it back

`json.dumps` with `ensure_ascii` and the separators `(",", ":")`.  The reader
of `PyValue.lean` returns what was written: first a string is read back from
its escapes, then the text of a value as its tokens, and then the tokens as
the value.
-/

namespace Json

/-! ## Strings -/

/-- `'\\u{0:04x}'.format(n)`. -/
def unicodeEscape (n : ℕ) : List Char :=
  ['\\', 'u', (n / 4096 % 16).digitChar, (n / 256 % 16).digitChar,
    (n / 16 % 16).digitChar, (n % 16).digitChar]

/-- A character beyond the basic plane is written as a surrogate pair. -/
def codeUnits (c : Char) : List ℕ :=
  if c.toNat < 0x10000 then [c.toNat]
  else
    [0xd800 + (c.toNat - 0x10000) / 0x400,
      0xdc00 + (c.toNat - 0x10000) % 0x400]

/-- `ESCAPE_DCT` without its `\uXXXX`. -/
def shortEscape? (c : Char) : Option Char :=
  if c = '\\' then some '\\'
  else if c = '"' then some '"'
  else if c = Char.ofNat 8 then some 'b'
  else if c = Char.ofNat 12 then some 'f'
  else if c = '\n' then some 'n'
  else if c = '\r' then some 'r'
  else if c = '\t' then some 't'
  else none

def escapeChar (c : Char) : List Char :=
  match shortEscape? c with
  | some short => ['\\', short]
  | none =>
      if 32 ≤ c.toNat ∧ c.toNat ≤ 126 then [c]
      else (codeUnits c).flatMap unicodeEscape

/-- `py_encode_basestring_ascii(text)`. -/
def quoted (text : String) : List Char :=
  '"' :: (text.toList.flatMap escapeChar ++ ['"'])

theorem shortEscape?_spec {c short : Char} (h : shortEscape? c = some short) :
    short ≠ 'u' ∧ escaped? short = some c ∧ codeUnits c = [c.toNat] := by
  unfold shortEscape? at h
  repeat' split at h
  all_goals first
    | (cases h; subst c; decide)
    | cases h

theorem hexDigit?_digitChar :
    ∀ digit < 16, hexDigit? (Nat.digitChar digit) = some digit := by
  decide

theorem tokensFrom_unicodeEscape {n : ℕ} (hn : n < 0x10000) (read : List ℕ)
    (rest : List Char) :
    tokensFrom (.text read) (unicodeEscape n ++ rest) =
      tokensFrom (.text (n :: read)) rest := by
  have hdigit : ∀ m, hexDigit? (Nat.digitChar (m % 16)) = some (m % 16) :=
    fun m => hexDigit?_digitChar (m % 16) (Nat.mod_lt m (by decide))
  have hvalue : 16 * (16 * (16 * (16 * 0 + n / 4096 % 16) + n / 256 % 16) +
      n / 16 % 16) + n % 16 = n := by
    omega
  simp only [unicodeEscape, List.cons_append, List.nil_append, tokensFrom,
    hdigit, Char.reduceEq, ↓reduceIte, OfNat.ofNat_ne_one,
    Nat.add_one_sub_one, hvalue]

/-- A character is no surrogate. -/
theorem toNat_cases (c : Char) :
    c.toNat < 0xd800 ∨ 0xdfff < c.toNat ∧ c.toNat < 0x110000 := c.valid

theorem codeUnits_lt (c : Char) : ∀ n ∈ codeUnits c, n < 0x10000 := by
  intro n hn
  have hc := toNat_cases c
  unfold codeUnits at hn
  split at hn
  · obtain rfl := List.mem_singleton.mp hn
    assumption
  · simp only [List.mem_cons, List.not_mem_nil, or_false] at hn
    omega

theorem tokensFrom_escapeChar (c : Char) (read : List ℕ) (rest : List Char) :
    tokensFrom (.text read) (escapeChar c ++ rest) =
      tokensFrom (.text ((codeUnits c).reverse ++ read)) rest := by
  have hunits : ∀ (units : List ℕ) (read : List ℕ),
      (∀ n ∈ units, n < 0x10000) →
      tokensFrom (.text read) (units.flatMap unicodeEscape ++ rest) =
        tokensFrom (.text (units.reverse ++ read)) rest := by
    intro units
    induction units with
    | nil => exact fun _ _ => rfl
    | cons n units ih =>
        intro read hlt
        rw [List.flatMap_cons, List.append_assoc,
          tokensFrom_unicodeEscape (hlt n List.mem_cons_self),
          ih _ fun m hm => hlt m (List.mem_cons_of_mem n hm),
          List.reverse_cons, List.append_assoc]
        rfl
  unfold escapeChar
  split
  next short hshort =>
    obtain ⟨hu, hescaped, hunit⟩ := shortEscape?_spec hshort
    simp [tokensFrom, hu, hescaped, hunit]
  next hnone =>
    split
    next hprintable =>
      have hquote : c ≠ '"' := by
        rintro rfl
        exact absurd hnone (by decide)
      have hslash : c ≠ '\\' := by
        rintro rfl
        exact absurd hnone (by decide)
      have hunit : codeUnits c = [c.toNat] := by
        rw [codeUnits, if_pos (by omega)]
      simp [tokensFrom, hquote, hslash, hunit, Nat.not_lt.mpr hprintable.1]
    next => exact hunits _ read (codeUnits_lt c)

theorem ofCodePoints_codeUnits (cs : List Char) :
    ofCodePoints (cs.flatMap codeUnits) = cs := by
  induction cs with
  | nil => rfl
  | cons c cs ih =>
      have hsingle : ∀ rest, c.toNat < 0x10000 →
          ofCodePoints (c.toNat :: rest) = c :: ofCodePoints rest := by
        intro rest _
        have hc := toNat_cases c
        have hsurrogate : ¬(0xd800 ≤ c.toNat ∧ c.toNat ≤ 0xdfff) := by
          omega
        rcases rest with _ | ⟨low, rest⟩
        · simp only [ofCodePoints, if_neg hsurrogate, Char.ofNat_toNat]
        · have hhigh : ¬(0xd800 ≤ c.toNat ∧ c.toNat ≤ 0xdbff ∧
              0xdc00 ≤ low ∧ low ≤ 0xdfff) := by
            omega
          rw [ofCodePoints, if_neg hhigh, if_neg hsurrogate, Char.ofNat_toNat]
      rw [List.flatMap_cons]
      by_cases hbasic : c.toNat < 0x10000
      · rw [codeUnits, if_pos hbasic, List.singleton_append, hsingle _ hbasic,
          ih]
      · have hc := toNat_cases c
        rw [codeUnits, if_neg hbasic]
        simp only [List.cons_append, List.nil_append]
        rw [ofCodePoints, if_pos (by omega), ih]
        have hvalue : 0x10000 +
            (0xd800 + (c.toNat - 0x10000) / 0x400 - 0xd800) * 0x400 +
            (0xdc00 + (c.toNat - 0x10000) % 0x400 - 0xdc00) = c.toNat := by
          omega
        rw [hvalue, Char.ofNat_toNat]

/-- A string is read back from its escapes. -/
theorem tokensFrom_quoted (text : String) (rest : List Char) :
    tokensFrom .between (quoted text ++ rest) =
      .text text :: tokensFrom .between rest := by
  have hletters : ∀ (letters : List Char) (read : List ℕ),
      tokensFrom (.text read)
          (letters.flatMap escapeChar ++ '"' :: rest) =
        tokensFrom (.text ((letters.flatMap codeUnits).reverse ++ read))
          ('"' :: rest) := by
    intro letters
    induction letters with
    | nil => exact fun _ => rfl
    | cons c letters ih =>
        intro read
        rw [List.flatMap_cons, List.append_assoc, tokensFrom_escapeChar, ih,
          List.flatMap_cons, List.reverse_append, List.append_assoc]
  rw [quoted, List.cons_append, List.append_assoc, List.singleton_append]
  have hopen : isBlank '"' = false := by decide
  rw [tokensFrom, hopen]
  simp only [Bool.false_eq_true, ↓reduceIte]
  rw [hletters, List.append_nil, tokensFrom]
  simp only [↓reduceIte]
  rw [List.reverse_reverse, ofCodePoints_codeUnits, String.ofList_toList]

/-! ## Values -/

/-- The text of a value that is no container. -/
def writeScalar (py : Interpreter) : PyValue → List Char
  | .none => "null".toList
  | .bool value => (if value then "true" else "false").toList
  | .int value => (toString value).toList
  | .float (.infinite negative) =>
      (if negative then "-Infinity" else "Infinity").toList
  | .float .nan => "NaN".toList
  | .str text => quoted text
  | value => (py.repr value).toList

mutual

/-- `json.dumps(value, ensure_ascii=True, separators=(",", ":"))`. -/
def write (py : Interpreter) : PyValue → List Char
  | .list items => '[' :: writeItems py [] items
  | .dict members => '{' :: writeMembers py [] members
  | value => writeScalar py value

/-- The items of an array from some item on, after a separator. -/
def writeItems (py : Interpreter) (separator : List Char) :
    List PyValue → List Char
  | [] => [']']
  | item :: items =>
      separator ++ (write py item ++ writeItems py [','] items)

def writeMembers (py : Interpreter) (separator : List Char) :
    List (String × PyValue) → List Char
  | [] => ['}']
  | (key, value) :: members =>
      separator ++ (quoted key ++
        ':' :: (write py value ++ writeMembers py [','] members))

end

def dumps (py : Interpreter) (value : PyValue) : String :=
  String.ofList (write py value)

mutual

/-- The tokens that a value is written as. -/
def tokensOf : PyValue → List JsonToken
  | .str text => [.text text]
  | .list items => .beginArray :: itemTokens [] items
  | .dict members => .beginObject :: memberTokens [] members
  | value => [.scalar value]

def itemTokens (separator : List JsonToken) : List PyValue → List JsonToken
  | [] => [.endArray]
  | item :: items => separator ++ (tokensOf item ++ itemTokens [.comma] items)

def memberTokens (separator : List JsonToken) :
    List (String × PyValue) → List JsonToken
  | [] => [.endObject]
  | (key, value) :: members =>
      separator ++ (.text key :: .colon ::
        (tokensOf value ++ memberTokens [.comma] members))

end

/-- A value without numbers whose dictionaries have distinct keys, and which
is nested at most so deep. -/
inductive Fits : ℕ → PyValue → Prop
  | none (room : ℕ) : Fits room .none
  | bool (room : ℕ) (value : Bool) : Fits room (.bool value)
  | str (room : ℕ) (text : String) : Fits room (.str text)
  | list (room : ℕ) (items : List PyValue)
      (hitems : ∀ item ∈ items, Fits room item) :
      Fits (room + 1) (.list items)
  | dict (room : ℕ) (members : List (String × PyValue))
      (hkeys : (members.map Prod.fst).Nodup)
      (hmembers : ∀ entry ∈ members, Fits room entry.2) :
      Fits (room + 1) (.dict members)

theorem Fits.mono {room room' : ℕ} {value : PyValue} (h : Fits room value)
    (hle : room ≤ room') : Fits room' value := by
  induction h generalizing room' with
  | none => exact Fits.none _
  | bool _ value => exact Fits.bool _ value
  | str _ text => exact Fits.str _ text
  | list room items _ ih =>
      obtain ⟨k, rfl⟩ := Nat.exists_eq_add_of_le' hle
      exact Fits.list (k + room) items fun item hitem =>
        ih item hitem (Nat.le_add_left room k)
  | dict room members hkeys _ ih =>
      obtain ⟨k, rfl⟩ := Nat.exists_eq_add_of_le' hle
      exact Fits.dict (k + room) members hkeys fun entry hentry =>
        ih entry hentry (Nat.le_add_left room k)

/-! ## The tokens of what is written -/

/-- A punctuation mark, or the end of the text, ends a word. -/
def Delimited (rest : List Char) : Prop :=
  ∀ c ∈ rest.head?, (punctuation? c).isSome = true

theorem delimited_cons {c : Char} (hc : (punctuation? c).isSome = true)
    (rest : List Char) : Delimited (c :: rest) := by
  intro d hd
  obtain rfl := Option.some.inj hd
  exact hc

theorem punctuation?_plain {c : Char} {token : JsonToken}
    (hc : punctuation? c = some token) : isBlank c = false ∧ c ≠ '"' := by
  unfold punctuation? at hc
  split at hc
  all_goals first
    | decide
    | cases hc

theorem tokensFrom_punctuation {c : Char} {token : JsonToken}
    (hc : punctuation? c = some token) (rest : List Char) :
    tokensFrom .between (c :: rest) = token :: tokensFrom .between rest := by
  obtain ⟨hblank, hquote⟩ := punctuation?_plain hc
  rw [tokensFrom, hblank, if_neg Bool.false_ne_true, if_neg hquote, hc]

theorem tokensFrom_nil (rest : List Char) :
    tokensFrom .between ([] ++ rest) = [] ++ tokensFrom .between rest := rfl

theorem tokensFrom_comma (rest : List Char) :
    tokensFrom .between ([','] ++ rest) =
      [.comma] ++ tokensFrom .between rest :=
  tokensFrom_punctuation rfl rest

/-- A letter of a word. -/
def isPlain (c : Char) : Bool :=
  !isBlank c && c ≠ '"' && (punctuation? c).isNone

theorem isPlain_iff {c : Char} :
    isPlain c = true ↔
      isBlank c = false ∧ c ≠ '"' ∧ punctuation? c = none := by
  simp [isPlain, and_assoc]

theorem tokensFrom_word {word rest : List Char} (hne : word ≠ [])
    (hword : word.all isPlain = true) (hrest : Delimited rest) :
    tokensFrom .between (word ++ rest) =
      wordToken word :: tokensFrom .between rest := by
  rw [List.all_eq_true] at hword
  have hletters : ∀ (letters read : List Char),
      (∀ c ∈ letters, isPlain c = true) →
      tokensFrom (.word read) (letters ++ rest) =
        wordToken (read.reverse ++ letters) :: tokensFrom .between rest := by
    intro letters
    induction letters with
    | nil =>
        intro read _
        rw [List.append_nil, List.nil_append]
        rcases rest with _ | ⟨c, rest⟩
        · simp only [tokensFrom]
        · obtain ⟨token, htoken⟩ :=
            Option.isSome_iff_exists.mp (hrest c rfl)
          obtain ⟨hblank, hquote⟩ := punctuation?_plain htoken
          rw [tokensFrom_punctuation htoken, tokensFrom, hblank,
            if_neg Bool.false_ne_true, if_neg hquote, htoken]
    | cons c letters ih =>
        intro read hplain
        obtain ⟨hblank, hquote, hmark⟩ :=
          isPlain_iff.mp (hplain c List.mem_cons_self)
        rw [List.cons_append, tokensFrom, hblank, if_neg Bool.false_ne_true,
          if_neg hquote, hmark]
        dsimp only
        rw [ih (c :: read) fun d hd => hplain d (List.mem_cons_of_mem c hd),
          List.reverse_cons, List.append_assoc, List.singleton_append]
  rcases word with _ | ⟨c, word⟩
  · exact absurd rfl hne
  · obtain ⟨hblank, hquote, hmark⟩ :=
      isPlain_iff.mp (hword c List.mem_cons_self)
    rw [List.cons_append, tokensFrom, hblank, if_neg Bool.false_ne_true,
      if_neg hquote, hmark]
    dsimp only
    rw [hletters word [c] fun d hd => hword d (List.mem_cons_of_mem c hd)]
    rfl

variable {py : Interpreter}

/-- The text of a value is read as its tokens. -/
def ReadsAs (py : Interpreter) (value : PyValue) : Prop :=
  ∀ rest, Delimited rest →
    tokensFrom .between (write py value ++ rest) =
      tokensOf value ++ tokensFrom .between rest

theorem tokensFrom_writeItems {items : List PyValue}
    (hitems : ∀ item ∈ items, ReadsAs py item)
    {separator : List Char} {tokens : List JsonToken}
    (hseparator : ∀ rest, tokensFrom .between (separator ++ rest) =
      tokens ++ tokensFrom .between rest) (rest : List Char) :
    tokensFrom .between (writeItems py separator items ++ rest) =
      itemTokens tokens items ++ tokensFrom .between rest := by
  induction items generalizing separator tokens with
  | nil =>
      rw [writeItems, itemTokens, List.singleton_append]
      exact tokensFrom_punctuation rfl rest
  | cons item items ih =>
      have hfollow : Delimited (writeItems py [','] items ++ rest) := by
        rcases items with _ | ⟨next, items⟩
        · exact delimited_cons rfl _
        · exact delimited_cons rfl _
      rw [writeItems, itemTokens, List.append_assoc, List.append_assoc,
        hseparator, hitems item List.mem_cons_self _ hfollow,
        ih (fun other hother => hitems other (List.mem_cons_of_mem item hother))
          tokensFrom_comma,
        List.append_assoc, List.append_assoc]

theorem tokensFrom_writeMembers {members : List (String × PyValue)}
    (hmembers : ∀ entry ∈ members, ReadsAs py entry.2)
    {separator : List Char} {tokens : List JsonToken}
    (hseparator : ∀ rest, tokensFrom .between (separator ++ rest) =
      tokens ++ tokensFrom .between rest) (rest : List Char) :
    tokensFrom .between (writeMembers py separator members ++ rest) =
      memberTokens tokens members ++ tokensFrom .between rest := by
  induction members generalizing separator tokens with
  | nil =>
      rw [writeMembers, memberTokens, List.singleton_append]
      exact tokensFrom_punctuation rfl rest
  | cons entry members ih =>
      obtain ⟨key, value⟩ := entry
      have hcolon : punctuation? ':' = some .colon := rfl
      have hfollow : Delimited (writeMembers py [','] members ++ rest) := by
        rcases members with _ | ⟨next, members⟩
        · exact delimited_cons rfl _
        · exact delimited_cons rfl _
      rw [writeMembers, memberTokens, List.append_assoc, List.append_assoc,
        List.cons_append, List.append_assoc, hseparator, tokensFrom_quoted,
        tokensFrom_punctuation hcolon,
        hmembers (key, value) List.mem_cons_self _ hfollow,
        ih (fun other hother =>
            hmembers other (List.mem_cons_of_mem (key, value) hother))
          tokensFrom_comma]
      simp only [List.append_assoc, List.cons_append]

theorem Fits.readsAs {room : ℕ} {value : PyValue} (h : Fits room value) :
    ReadsAs py value := by
  induction h with
  | none =>
      intro rest hrest
      have hword : write py .none = "null".toList := rfl
      rw [hword]
      exact tokensFrom_word (by decide) (by decide) hrest
  | bool _ value =>
      intro rest hrest
      cases value
      · have hword : write py (.bool false) = "false".toList := rfl
        rw [hword]
        exact tokensFrom_word (by decide) (by decide) hrest
      · have hword : write py (.bool true) = "true".toList := rfl
        rw [hword]
        exact tokensFrom_word (by decide) (by decide) hrest
  | str _ text =>
      intro rest _
      exact tokensFrom_quoted text rest
  | list _ items _ ih =>
      intro rest _
      have hopen : punctuation? '[' = some .beginArray := rfl
      rw [write, tokensOf, List.cons_append, tokensFrom_punctuation hopen,
        tokensFrom_writeItems ih tokensFrom_nil, List.cons_append]
  | dict _ members _ _ ih =>
      intro rest _
      have hopen : punctuation? '{' = some .beginObject := rfl
      rw [write, tokensOf, List.cons_append, tokensFrom_punctuation hopen,
        tokensFrom_writeMembers ih tokensFrom_nil, List.cons_append]

/-! ## The value of the tokens -/

/-- In front of its tokens, the reader takes in the value. -/
def IsRead (limit room : ℕ) (value : PyValue) : Prop :=
  ∀ stack tokens expected, expected = .value ∨ expected = .firstItem →
    stack.length + room ≤ limit →
    (tokensOf value ++ tokens).foldlM (Reader.step limit) ⟨stack, expected⟩ =
      tokens.foldlM (Reader.step limit) (Reader.complete value stack)

theorem foldlM_step_ok {limit : ℕ} {reader reader' : Reader}
    {token : JsonToken} (h : Reader.step limit reader token = .ok reader')
    (tokens : List JsonToken) :
    (token :: tokens).foldlM (Reader.step limit) reader =
      tokens.foldlM (Reader.step limit) reader' := by
  rw [List.foldlM_cons, h]
  rfl

theorem step_value (limit : ℕ) (stack : List Frame) {expected : Expected}
    (token : JsonToken) (htoken : token ≠ .endArray)
    (hexpected : expected = .value ∨ expected = .firstItem) :
    Reader.step limit ⟨stack, expected⟩ token =
      Reader.readValue limit stack token := by
  rcases hexpected with rfl | rfl
  · rfl
  · rcases stack with _ | ⟨_ | _, stack⟩
    · rfl
    · cases token
      case endArray => exact absurd rfl htoken
      all_goals rfl
    · rfl

theorem read_moreItems {limit room : ℕ} {items : List PyValue}
    (hitems : ∀ item ∈ items, IsRead limit room item)
    {stack : List Frame} (hroom : stack.length + (room + 1) ≤ limit)
    (before : List PyValue) (tokens : List JsonToken) :
    (itemTokens [.comma] items ++ tokens).foldlM (Reader.step limit)
        ⟨.array before.reverse :: stack, .separator⟩ =
      tokens.foldlM (Reader.step limit)
        (Reader.complete (.list (before ++ items)) stack) := by
  induction items generalizing before with
  | nil =>
      rw [itemTokens, List.singleton_append, foldlM_step_ok rfl,
        List.reverse_reverse, List.append_nil]
  | cons item items ih =>
      have hstack : (Frame.array before.reverse :: stack).length + room ≤
          limit := by
        rw [List.length_cons]
        omega
      rw [itemTokens, List.append_assoc, List.append_assoc,
        List.singleton_append, foldlM_step_ok rfl,
        hitems item List.mem_cons_self _ _ _ (Or.inl rfl) hstack,
        Reader.complete]
      have hnext := ih (fun other hother =>
        hitems other (List.mem_cons_of_mem item hother)) (before ++ [item])
      rw [List.reverse_append, List.append_assoc] at hnext
      exact hnext

theorem read_items {limit room : ℕ} {items : List PyValue}
    (hitems : ∀ item ∈ items, IsRead limit room item)
    {stack : List Frame} (hroom : stack.length + (room + 1) ≤ limit)
    (tokens : List JsonToken) :
    (itemTokens [] items ++ tokens).foldlM (Reader.step limit)
        ⟨.array [] :: stack, .firstItem⟩ =
      tokens.foldlM (Reader.step limit)
        (Reader.complete (.list items) stack) := by
  rcases items with _ | ⟨item, items⟩
  · rw [itemTokens, List.singleton_append, foldlM_step_ok rfl]
    rfl
  · have hstack : (Frame.array [] :: stack).length + room ≤ limit := by
      rw [List.length_cons]
      omega
    rw [itemTokens, List.nil_append, List.append_assoc,
      hitems item List.mem_cons_self _ _ _ (Or.inr rfl) hstack]
    exact read_moreItems (fun other hother =>
      hitems other (List.mem_cons_of_mem item hother)) hroom [item] tokens

theorem setMember_of_not_mem {key : String} {value : PyValue}
    {members : List (String × PyValue)} (h : key ∉ members.map Prod.fst) :
    PyValue.setMember key value members = members ++ [(key, value)] := by
  induction members with
  | nil => rfl
  | cons entry members ih =>
      obtain ⟨other, old⟩ := entry
      rw [List.map_cons, List.mem_cons, not_or] at h
      rw [PyValue.setMember, if_neg fun heq => h.1 heq.symm, ih h.2,
        List.cons_append]

theorem read_moreMembers {limit room : ℕ} {members : List (String × PyValue)}
    (hmembers : ∀ entry ∈ members, IsRead limit room entry.2)
    {stack : List Frame} (hroom : stack.length + (room + 1) ≤ limit)
    (before : List (String × PyValue)) (key : String)
    (hkeys : ((before ++ members).map Prod.fst).Nodup)
    (tokens : List JsonToken) :
    (memberTokens [.comma] members ++ tokens).foldlM (Reader.step limit)
        ⟨.object before key :: stack, .separator⟩ =
      tokens.foldlM (Reader.step limit)
        (Reader.complete (.dict (before ++ members)) stack) := by
  induction members generalizing before key with
  | nil =>
      rw [memberTokens, List.singleton_append, foldlM_step_ok rfl,
        List.append_nil]
  | cons entry members ih =>
      obtain ⟨name, value⟩ := entry
      have hstack : (Frame.object before name :: stack).length + room ≤
          limit := by
        rw [List.length_cons]
        omega
      have hnew : name ∉ before.map Prod.fst := by
        rw [List.map_append, List.nodup_append] at hkeys
        intro hmem
        exact hkeys.2.2 name hmem name List.mem_cons_self rfl
      have htokens : memberTokens [.comma] ((name, value) :: members) ++
          tokens = .comma :: .text name :: .colon ::
            (tokensOf value ++ (memberTokens [.comma] members ++ tokens)) := by
        simp [memberTokens]
      rw [htokens, foldlM_step_ok rfl, foldlM_step_ok rfl, foldlM_step_ok rfl,
        hmembers (name, value) List.mem_cons_self _ _ _ (Or.inl rfl) hstack,
        Reader.complete, setMember_of_not_mem hnew]
      rw [← List.singleton_append, ← List.append_assoc] at hkeys
      have hnext := ih (fun other hother =>
        hmembers other (List.mem_cons_of_mem _ hother)) _ "" hkeys
      rw [List.append_assoc] at hnext
      exact hnext

theorem read_members {limit room : ℕ} {members : List (String × PyValue)}
    (hmembers : ∀ entry ∈ members, IsRead limit room entry.2)
    {stack : List Frame} (hroom : stack.length + (room + 1) ≤ limit)
    (hkeys : (members.map Prod.fst).Nodup) (tokens : List JsonToken) :
    (memberTokens [] members ++ tokens).foldlM (Reader.step limit)
        ⟨.object [] "" :: stack, .firstKey⟩ =
      tokens.foldlM (Reader.step limit)
        (Reader.complete (.dict members) stack) := by
  rcases members with _ | ⟨⟨name, value⟩, members⟩
  · rw [memberTokens, List.singleton_append, foldlM_step_ok rfl]
  · have hstack : (Frame.object [] name :: stack).length + room ≤ limit := by
      rw [List.length_cons]
      omega
    have htokens : memberTokens [] ((name, value) :: members) ++ tokens =
        .text name :: .colon ::
          (tokensOf value ++ (memberTokens [.comma] members ++ tokens)) := by
      simp [memberTokens]
    rw [htokens, foldlM_step_ok rfl, foldlM_step_ok rfl,
      hmembers (name, value) List.mem_cons_self _ _ _ (Or.inl rfl) hstack]
    exact read_moreMembers (fun other hother =>
      hmembers other (List.mem_cons_of_mem _ hother)) hroom [(name, value)] ""
      hkeys tokens

theorem Fits.isRead {limit room : ℕ} {value : PyValue} (h : Fits room value) :
    IsRead limit room value := by
  induction h with
  | none =>
      intro stack tokens expected hexpected _
      have hstep := step_value limit stack (.scalar .none) (by simp)
        hexpected
      exact foldlM_step_ok hstep tokens
  | bool _ value =>
      intro stack tokens expected hexpected _
      have hstep := step_value limit stack (.scalar (.bool value)) (by simp)
        hexpected
      exact foldlM_step_ok hstep tokens
  | str _ text =>
      intro stack tokens expected hexpected _
      have hstep := step_value limit stack (.text text) (by simp) hexpected
      exact foldlM_step_ok hstep tokens
  | list room items _ ih =>
      intro stack tokens expected hexpected hroom
      have hpush : Reader.step limit ⟨stack, expected⟩ .beginArray =
          .ok ⟨.array [] :: stack, .firstItem⟩ := by
        rw [step_value _ _ .beginArray (by simp) hexpected, Reader.readValue,
          Reader.push, if_pos (by omega)]
      rw [tokensOf, List.cons_append, foldlM_step_ok hpush]
      exact read_items ih hroom tokens
  | dict room members hkeys _ ih =>
      intro stack tokens expected hexpected hroom
      have hpush : Reader.step limit ⟨stack, expected⟩ .beginObject =
          .ok ⟨.object [] "" :: stack, .firstKey⟩ := by
        rw [step_value _ _ .beginObject (by simp) hexpected, Reader.readValue,
          Reader.push, if_pos (by omega)]
      rw [tokensOf, List.cons_append, foldlM_step_ok hpush]
      exact read_members ih hroom hkeys tokens

/-- A reader whose nesting limit leaves room returns what was written. -/
theorem Fits.read_back {limit : ℕ} {value : PyValue} (h : Fits limit value) :
    (tokensFrom .between (write py value)).foldlM (Reader.step limit)
      Reader.initial = .ok ⟨[], .nothing value⟩ := by
  have htokens : tokensFrom .between (write py value) = tokensOf value := by
    have hread : ReadsAs py value := h.readsAs
    have hread := hread [] (by intro c hc; cases hc)
    simpa [tokensFrom] using hread
  have hread : IsRead limit limit value := h.isRead
  have hvalue := hread [] [] .value (Or.inl rfl) (by simp)
  rw [List.append_nil] at hvalue
  rw [htokens, Reader.initial, hvalue]
  rfl

/-- `json.loads(json.dumps(value))` is the value. -/
theorem loads_dumps {value : PyValue} (h : Fits py.recursionLimit value) :
    loads py (dumps py value) = .ok value := by
  rw [loads, dumps, String.toList_ofList, h.read_back]
  rfl

/-- Different values are written differently, however deep they are. -/
theorem dumps_inj {room : ℕ} {value other : PyValue} (h : Fits room value)
    (hother : Fits room other) :
    dumps py value = dumps py other ↔ value = other := by
  constructor
  · intro htext
    have hwritten := congrArg String.toList htext
    rw [dumps, dumps, String.toList_ofList, String.toList_ofList] at hwritten
    have hread : (tokensFrom .between (write py value)).foldlM
        (Reader.step room) Reader.initial = .ok ⟨[], .nothing value⟩ :=
      h.read_back
    rw [hwritten, hother.read_back] at hread
    cases hread
    rfl
  · rintro rfl
    rfl

/-! ## Sorted keys -/

/-- The order of the entries with `sort_keys=True`. -/
def keyLe (entry other : String × PyValue) : Prop := entry.1 ≤ other.1

instance : DecidableRel keyLe := fun entry other =>
  inferInstanceAs (Decidable (entry.1 ≤ other.1))

instance : Std.Total keyLe := ⟨fun entry other => le_total entry.1 other.1⟩

instance : IsTrans (String × PyValue) keyLe := ⟨fun _ _ _ => le_trans⟩

mutual

/-- The value as `json.dumps` writes it with `sort_keys=True`. -/
def sortKeys : PyValue → PyValue
  | .list items => .list (sortItems items)
  | .dict members => .dict (sortMembers members)
  | value => value

def sortItems : List PyValue → List PyValue
  | [] => []
  | item :: items => sortKeys item :: sortItems items

def sortMembers : List (String × PyValue) → List (String × PyValue)
  | [] => []
  | (key, value) :: members =>
      (sortMembers members).orderedInsert keyLe (key, sortKeys value)

end

def sortEntry (entry : String × PyValue) : String × PyValue :=
  (entry.1, sortKeys entry.2)

theorem sortItems_eq_map (items : List PyValue) :
    sortItems items = items.map sortKeys := by
  induction items with
  | nil => rfl
  | cons item items ih => rw [sortItems, ih, List.map_cons]

theorem sortMembers_perm (members : List (String × PyValue)) :
    (sortMembers members).Perm (members.map sortEntry) := by
  induction members with
  | nil => rfl
  | cons entry members ih =>
      obtain ⟨key, value⟩ := entry
      rw [sortMembers, List.map_cons]
      exact (List.perm_orderedInsert keyLe _ _).trans (ih.cons _)

theorem sortMembers_sorted (members : List (String × PyValue)) :
    (sortMembers members).Pairwise keyLe := by
  induction members with
  | nil => exact List.Pairwise.nil
  | cons entry members ih =>
      obtain ⟨key, value⟩ := entry
      rw [sortMembers]
      exact ih.orderedInsert _ _

theorem map_fst_sortEntry (members : List (String × PyValue)) :
    (members.map sortEntry).map Prod.fst = members.map Prod.fst := by
  rw [List.map_map]
  rfl

theorem nodup_keys_sortMembers {members : List (String × PyValue)}
    (h : (members.map Prod.fst).Nodup) :
    ((sortMembers members).map Prod.fst).Nodup := by
  rw [((sortMembers_perm members).map Prod.fst).nodup_iff, map_fst_sortEntry]
  exact h

/-- Dictionaries with the same entries are sorted alike. -/
theorem sortMembers_congr {members members' : List (String × PyValue)}
    (hkeys : (members.map Prod.fst).Nodup)
    (h : (members.map sortEntry).Perm (members'.map sortEntry)) :
    sortMembers members = sortMembers members' := by
  have hperm : (sortMembers members).Perm (sortMembers members') :=
    (sortMembers_perm members).trans (h.trans (sortMembers_perm members').symm)
  refine hperm.eq_of_pairwise ?_ (sortMembers_sorted members)
    (sortMembers_sorted members')
  intro entry other hentry hother hle hge
  have hkey : entry.1 = other.1 := le_antisymm hle hge
  exact List.inj_on_of_nodup_map (nodup_keys_sortMembers hkeys) hentry
    (hperm.mem_iff.mpr hother) hkey

theorem lookup_of_mem {members : List (String × PyValue)}
    (hkeys : (members.map Prod.fst).Nodup) {key : String} {value : PyValue}
    (h : (key, value) ∈ members) : members.lookup key = some value := by
  induction members with
  | nil => cases h
  | cons entry members ih =>
      obtain ⟨other, old⟩ := entry
      rw [List.map_cons, List.nodup_cons] at hkeys
      rcases List.mem_cons.mp h with heq | hmem
      · cases heq
        exact List.lookup_cons_self
      · have hne : (key == other) = false := by
          refine beq_false_of_ne ?_
          rintro rfl
          exact hkeys.1 (List.mem_map.mpr ⟨_, hmem, rfl⟩)
        rw [List.lookup_cons, hne]
        exact ih hkeys.2 hmem

/-- Sorting the keys moves no entry to another key. -/
theorem get_sortMembers {members : List (String × PyValue)}
    (hkeys : (members.map Prod.fst).Nodup) {key : String} {value : PyValue}
    (h : (key, value) ∈ members) :
    PyValue.get (sortMembers members) key = sortKeys value := by
  have hmem : (key, sortKeys value) ∈ sortMembers members :=
    (sortMembers_perm members).mem_iff.mpr
      (List.mem_map_of_mem (f := sortEntry) h)
  rw [PyValue.get, lookup_of_mem (nodup_keys_sortMembers hkeys) hmem,
    Option.getD_some]

theorem Fits.sortKeys {room : ℕ} {value : PyValue} (h : Fits room value) :
    Fits room (sortKeys value) := by
  induction h with
  | none => exact Fits.none _
  | bool _ value => exact Fits.bool _ value
  | str _ text => exact Fits.str _ text
  | list _ items _ ih =>
      rw [Json.sortKeys, sortItems_eq_map]
      refine Fits.list _ _ ?_
      intro item hitem
      obtain ⟨source, hsource, rfl⟩ := List.mem_map.mp hitem
      exact ih source hsource
  | dict _ members hkeys _ ih =>
      rw [Json.sortKeys]
      refine Fits.dict _ _ (nodup_keys_sortMembers hkeys) ?_
      intro entry hentry
      obtain ⟨source, hsource, rfl⟩ :=
        List.mem_map.mp ((sortMembers_perm members).mem_iff.mp hentry)
      exact ih source hsource

theorem Fits.sortKeys_sortKeys {room : ℕ} {value : PyValue}
    (h : Fits room value) :
    Json.sortKeys (Json.sortKeys value) = Json.sortKeys value := by
  induction h with
  | none => rfl
  | bool => rfl
  | str => rfl
  | list _ items _ ih =>
      rw [Json.sortKeys, Json.sortKeys, sortItems_eq_map, sortItems_eq_map,
        List.map_map]
      exact congrArg PyValue.list (List.map_congr_left ih)
  | dict _ members hkeys _ ih =>
      rw [Json.sortKeys, Json.sortKeys]
      refine congrArg PyValue.dict (sortMembers_congr
        (nodup_keys_sortMembers hkeys) ?_)
      refine ((sortMembers_perm members).map sortEntry).trans ?_
      rw [List.map_map]
      refine List.Perm.of_eq (List.map_congr_left ?_)
      intro entry hentry
      exact Prod.ext rfl (ih entry hentry)

/-- Sorting the keys before a new entry is set does not show afterwards. -/
theorem sortMembers_setMember {room : ℕ} {members : List (String × PyValue)}
    (h : Fits room (.dict members)) {key : String}
    (hkey : key ∉ members.map Prod.fst) (value : PyValue) :
    sortMembers (PyValue.setMember key value (sortMembers members)) =
      sortMembers (members ++ [(key, value)]) := by
  have hsorted : sortMembers (sortMembers members) = sortMembers members :=
    PyValue.dict.inj h.sortKeys_sortKeys
  have hperm : ((sortMembers members).map sortEntry).Perm
      (members.map sortEntry) := by
    have hback := sortMembers_perm (sortMembers members)
    rw [hsorted] at hback
    exact hback.symm.trans (sortMembers_perm members)
  cases h with
  | dict _ _ hkeys _ =>
      have hnew : key ∉ (sortMembers members).map Prod.fst := by
        rw [((sortMembers_perm members).map Prod.fst).mem_iff,
          map_fst_sortEntry]
        exact hkey
      rw [setMember_of_not_mem hnew]
      refine sortMembers_congr ?_ ?_
      · rw [List.map_append, List.nodup_append]
        refine ⟨nodup_keys_sortMembers hkeys, List.nodup_singleton key, ?_⟩
        intro name hname other hother heq
        obtain rfl := List.mem_singleton.mp hother
        exact hnew (heq ▸ hname)
      · rw [List.map_append, List.map_append]
        exact hperm.append_right _

end Json
