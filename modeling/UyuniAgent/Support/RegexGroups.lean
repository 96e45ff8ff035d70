import UyuniAgent.Support.Regex

/-!
# Groups of regular expressions

Patterns with capturing groups, as sequences of parts, and the searches of `re`
that return what they captured.  A part that is lazy tries its ends from the
nearest on.
-/

namespace Regex

/-! ## Patterns -/

/-- A literal text. -/
def literal (text : String) : Regex :=
  (text.toList.map fun letter => chars (· = letter)).foldr seq empty

/-- `[...]+`. -/
def many (accepts : Char → Bool) : Regex :=
  seq (chars accepts) (star (chars accepts))

/-- `(?:...)?`. -/
def optionally (body : Regex) : Regex := alt body empty

/-- `(?:...){0,count}`. -/
def upTo (body : Regex) : ℕ → Regex
  | 0 => empty
  | count + 1 => optionally (seq body (upTo body count))

/-- `\d`. -/
def isDecimal (c : Char) : Bool := (PyText.digit? c).isSome

/-- `\d+`. -/
def decimals : Regex := many isDecimal

/-! ## Parts -/

inductive Part
  | plain (body : Regex)
  | lazily (body : Regex)
  | group (body : Regex)
  | lineStart
  | lineEnd

def Part.ends (unicode : UnicodeData) : Part → TextPlace → List TextPlace
  | .plain body, place => body.ends unicode place
  | .lazily body, place => (body.ends unicode place).reverse
  | .group body, place => body.ends unicode place
  | .lineStart, place =>
      if place.before.all (· = '\n') then [place] else []
  | .lineEnd, place =>
      if place.rest.head?.all (· = '\n') then [place] else []

/-- The text from one place up to a later one. -/
def between (start stop : TextPlace) : String :=
  String.ofList
    (start.rest.take (start.rest.length - stop.rest.length))

def Part.captured (start stop : TextPlace) : Part → List String
  | .group _ => [between start stop]
  | _ => []

/-- The groups of the first match that begins here. -/
def groupsFrom (unicode : UnicodeData) :
    List Part → TextPlace → Option (List String)
  | [], _ => some []
  | part :: parts, place =>
      (part.ends unicode place).findSome? fun stop =>
        (groupsFrom unicode parts stop).map (part.captured place stop ++ ·)

def searchGroupsFrom (unicode : UnicodeData) (parts : List Part) :
    Option Char → List Char → Option (List String)
  | before, [] => groupsFrom unicode parts ⟨before, []⟩
  | before, c :: rest =>
      match groupsFrom unicode parts ⟨before, c :: rest⟩ with
      | some groups => some groups
      | none => searchGroupsFrom unicode parts (some c) rest

/-- The groups of the leftmost match of `re.search`. -/
def searchGroups (unicode : UnicodeData) (parts : List Part) (text : String) :
    Option (List String) :=
  searchGroupsFrom unicode parts none text.toList

def findAllFrom (unicode : UnicodeData) (pattern : Regex) :
    ℕ → TextPlace → List String
  | 0, _ => []
  | fuel + 1, place =>
      match place.next with
      | [] => []
      | next :: _ =>
          match pattern.ends unicode place with
          | [] => findAllFrom unicode pattern fuel next
          | stop :: _ =>
              between place stop :: findAllFrom unicode pattern fuel stop

/-- `re.findall`, of a pattern that does not match the empty text. -/
def findAll (unicode : UnicodeData) (pattern : Regex) (text : String) :
    List String :=
  findAllFrom unicode pattern text.length ⟨none, text.toList⟩

/-! ## The characters of a match -/

variable {unicode : UnicodeData} {accepts : Char → Bool}

/-- Every match of the pattern consists of accepted characters. -/
def MatchesOnly (unicode : UnicodeData) (accepts : Char → Bool)
    (pattern : Regex) : Prop :=
  ∀ start, ∀ stop ∈ pattern.ends unicode start, ∃ matched,
    start.rest = matched ++ stop.rest ∧ ∀ c ∈ matched, accepts c = true

theorem matchesOnly_chars : MatchesOnly unicode accepts (chars accepts) := by
  intro start stop hstop
  rw [ends, List.mem_filter, TextPlace.next] at hstop
  obtain ⟨hnext, hbefore⟩ := hstop
  split at hnext
  next => cases hnext
  next c rest hrest =>
    obtain rfl := List.mem_singleton.mp hnext
    refine ⟨[c], hrest, ?_⟩
    intro d hd
    obtain rfl := List.mem_singleton.mp hd
    exact hbefore

theorem MatchesOnly.seq {first second : Regex}
    (hfirst : MatchesOnly unicode accepts first)
    (hsecond : MatchesOnly unicode accepts second) :
    MatchesOnly unicode accepts (seq first second) := by
  intro start stop hstop
  rw [ends, List.mem_flatMap] at hstop
  obtain ⟨middle, hmiddle, hstop⟩ := hstop
  obtain ⟨head, hhead, hheadAccepts⟩ := hfirst start middle hmiddle
  obtain ⟨tail, htail, htailAccepts⟩ := hsecond middle stop hstop
  refine ⟨head ++ tail, ?_, ?_⟩
  · rw [hhead, htail, List.append_assoc]
  · intro c hc
    rcases List.mem_append.mp hc with hc | hc
    · exact hheadAccepts c hc
    · exact htailAccepts c hc

theorem MatchesOnly.star {body : Regex}
    (hbody : MatchesOnly unicode accepts body) :
    MatchesOnly unicode accepts (star body) := by
  have hrounds : ∀ fuel start,
      ∀ stop ∈ rounds (body.ends unicode) fuel start, ∃ matched,
        start.rest = matched ++ stop.rest ∧
          ∀ c ∈ matched, accepts c = true := by
    intro fuel
    induction fuel with
    | zero =>
        intro start stop hstop
        obtain rfl := List.mem_singleton.mp hstop
        exact ⟨[], rfl, by simp⟩
    | succ fuel ih =>
        intro start stop hstop
        rw [rounds, List.mem_append] at hstop
        rcases hstop with hmore | hdone
        · obtain ⟨middle, hmiddle, hstop⟩ := List.mem_flatMap.mp hmore
          obtain ⟨head, hhead, hheadAccepts⟩ :=
            hbody start middle (List.mem_of_mem_filter hmiddle)
          obtain ⟨tail, htail, htailAccepts⟩ := ih middle stop hstop
          refine ⟨head ++ tail, ?_, ?_⟩
          · rw [hhead, htail, List.append_assoc]
          · intro c hc
            rcases List.mem_append.mp hc with hc | hc
            · exact hheadAccepts c hc
            · exact htailAccepts c hc
        · obtain rfl := List.mem_singleton.mp hdone
          exact ⟨[], rfl, by simp⟩
  intro start stop hstop
  exact hrounds _ start stop hstop

theorem matchesOnly_many : MatchesOnly unicode accepts (many accepts) :=
  matchesOnly_chars.seq matchesOnly_chars.star

theorem MatchesOnly.mono {wider : Char → Bool} {body : Regex}
    (hbody : MatchesOnly unicode accepts body)
    (hwider : ∀ c, accepts c = true → wider c = true) :
    MatchesOnly unicode wider body := by
  intro start stop hstop
  obtain ⟨matched, hmatched, haccepts⟩ := hbody start stop hstop
  exact ⟨matched, hmatched, fun c hc => hwider c (haccepts c hc)⟩

theorem matchesOnly_literal {text : String}
    (htext : ∀ c ∈ text.toList, accepts c = true) :
    MatchesOnly unicode accepts (literal text) := by
  rw [literal]
  generalize text.toList = letters at htext ⊢
  induction letters with
  | nil =>
      intro start stop hstop
      obtain rfl := List.mem_singleton.mp hstop
      exact ⟨[], rfl, by simp⟩
  | cons letter letters ih =>
      have hletter : MatchesOnly unicode accepts (chars (· = letter)) := by
        refine matchesOnly_chars.mono ?_
        intro c hc
        obtain rfl := of_decide_eq_true hc
        exact htext c List.mem_cons_self
      exact hletter.seq
        (ih fun c hc => htext c (List.mem_cons_of_mem letter hc))

/-- What lies between the ends of a match is the match. -/
theorem toList_between {start stop : TextPlace} {matched : List Char}
    (h : start.rest = matched ++ stop.rest) :
    (between start stop).toList = matched := by
  rw [between, String.toList_ofList, h, List.length_append,
    Nat.add_sub_cancel, List.take_left]

/-! ## The characters of a group -/

/-- Every group captures accepted characters only. -/
def CapturesOnly (unicode : UnicodeData) (accepts : Char → Bool)
    (parts : List Part) : Prop :=
  ∀ body, .group body ∈ parts → MatchesOnly unicode accepts body

theorem captured_of_groupsFrom {parts : List Part}
    (hparts : CapturesOnly unicode accepts parts) {place : TextPlace}
    {groups : List String} (h : groupsFrom unicode parts place = some groups) :
    ∀ group ∈ groups, ∀ c ∈ group.toList, accepts c = true := by
  induction parts generalizing place groups with
  | nil =>
      obtain rfl := Option.some.inj h
      simp
  | cons part parts ih =>
      obtain ⟨stop, hstop, hgroups⟩ := List.exists_of_findSome?_eq_some h
      obtain ⟨later, hlater, rfl⟩ := Option.map_eq_some_iff.mp hgroups
      intro group hgroup c hc
      rcases List.mem_append.mp hgroup with hgroup | hgroup
      · rcases part with body | body | body | _ | _
        case group =>
          obtain rfl := List.mem_singleton.mp hgroup
          obtain ⟨matched, hmatched, haccepts⟩ :=
            hparts body List.mem_cons_self place stop hstop
          rw [toList_between hmatched] at hc
          exact haccepts c hc
        all_goals cases hgroup
      · refine ih ?_ hlater group hgroup c hc
        intro body hbody
        exact hparts body (List.mem_cons_of_mem part hbody)

/-- The groups of a search come from a place in the text. -/
theorem exists_of_searchGroupsFrom {parts : List Part} {groups : List String}
    {before : Option Char} {rest : List Char}
    (h : searchGroupsFrom unicode parts before rest = some groups) :
    ∃ place : TextPlace, place.rest <:+ rest ∧
      groupsFrom unicode parts place = some groups := by
  induction rest generalizing before with
  | nil => exact ⟨_, List.suffix_rfl, h⟩
  | cons c rest ih =>
      rw [searchGroupsFrom] at h
      split at h
      next found hfound =>
        obtain rfl := Option.some.inj h
        exact ⟨_, List.suffix_rfl, hfound⟩
      next =>
        obtain ⟨place, hplace, hgroups⟩ := ih h
        exact ⟨place, hplace.trans (List.suffix_cons c rest), hgroups⟩

theorem captured_of_searchGroups {parts : List Part}
    (hparts : CapturesOnly unicode accepts parts) {text : String}
    {groups : List String}
    (h : searchGroups unicode parts text = some groups) :
    ∀ group ∈ groups, ∀ c ∈ group.toList, accepts c = true := by
  obtain ⟨place, -, hplace⟩ := exists_of_searchGroupsFrom h
  exact captured_of_groupsFrom hparts hplace

/-! ## Groups up to the end of a line -/

/-- A pattern that never matches over a character is searched for after it. -/
theorem searchGroupsFrom_after {parts : List Part} {c : Char}
    (hnone : ∀ place : TextPlace, c ∈ place.rest →
      groupsFrom unicode parts place = none)
    (before : Option Char) (skipped rest : List Char) :
    searchGroupsFrom unicode parts before (skipped ++ c :: rest) =
      searchGroupsFrom unicode parts (some c) rest := by
  induction skipped generalizing before with
  | nil =>
      rw [List.nil_append, searchGroupsFrom, hnone _ List.mem_cons_self]
  | cons d skipped ih =>
      rw [List.cons_append, searchGroupsFrom, hnone _ (by simp)]
      exact ih (some d)

theorem mem_ends_chars {c : Char} (hc : accepts c = true)
    (before : Option Char) (rest : List Char) :
    ⟨some c, rest⟩ ∈ (chars accepts).ends unicode ⟨before, c :: rest⟩ := by
  simp [ends, TextPlace.next, hc]

theorem mem_ends_seq {first second : Regex} {start middle stop : TextPlace}
    (hfirst : middle ∈ first.ends unicode start)
    (hsecond : stop ∈ second.ends unicode middle) :
    stop ∈ (seq first second).ends unicode start :=
  List.mem_flatMap.mpr ⟨middle, hfirst, hsecond⟩

variable (unicode) in
theorem exists_end_literal (text : String) (before : Option Char)
    (rest : List Char) :
    ∃ last, ⟨last, rest⟩ ∈
      (literal text).ends unicode ⟨before, text.toList ++ rest⟩ := by
  rw [literal]
  induction text.toList generalizing before with
  | nil => exact ⟨before, List.mem_singleton_self _⟩
  | cons letter letters ih =>
      obtain ⟨last, hlast⟩ := ih (some letter)
      exact ⟨last, mem_ends_seq
        (mem_ends_chars (decide_eq_true rfl) before _) hlast⟩

/-- A literal text matches just itself. -/
theorem mem_ends_literal_iff {text : String} {start stop : TextPlace} :
    stop ∈ (literal text).ends unicode start ↔
      start.rest = text.toList ++ stop.rest ∧
        stop.before = text.toList.getLast?.or start.before := by
  rw [literal]
  generalize text.toList = letters
  induction letters generalizing start with
  | nil =>
      simp only [List.map_nil, List.foldr_nil, ends, List.mem_singleton,
        List.nil_append, List.getLast?_nil, Option.none_or]
      constructor
      · rintro rfl
        exact ⟨rfl, rfl⟩
      · rintro ⟨hrest, hbefore⟩
        rcases stop with ⟨before, rest⟩
        rcases start with ⟨before', rest'⟩
        obtain rfl : rest' = rest := hrest
        obtain rfl : before = before' := hbefore
        rfl
  | cons letter letters ih =>
      have hlast (before : Option Char) :
          (letter :: letters).getLast?.or before =
            letters.getLast?.or (some letter) := by
        rw [List.getLast?_cons]
        rcases letters.getLast? with _ | last
        · rfl
        · rfl
      rw [List.map_cons, List.foldr_cons, ends, List.mem_flatMap, hlast]
      constructor
      · rintro ⟨middle, hmiddle, hstop⟩
        obtain ⟨hrest, hbefore⟩ := ih.mp hstop
        rw [ends, List.mem_filter, TextPlace.next] at hmiddle
        obtain ⟨hnext, haccepts⟩ := hmiddle
        split at hnext
        next => cases hnext
        next c rest hstart =>
          obtain rfl := List.mem_singleton.mp hnext
          obtain rfl : c = letter := by simpa using haccepts
          dsimp only at hrest hbefore
          exact ⟨by rw [hstart, hrest, List.cons_append], hbefore⟩
      · rintro ⟨hrest, hbefore⟩
        refine ⟨⟨some letter, letters ++ stop.rest⟩, ?_,
          ih.mpr ⟨rfl, hbefore⟩⟩
        rw [ends, List.mem_filter, TextPlace.next, hrest]
        simp

variable (unicode) in
/-- A repetition may go on to the end of accepted characters. -/
theorem exists_end_star {rest : List Char}
    (hrest : ∀ c ∈ rest, accepts c = true) (before : Option Char) :
    ∃ stop ∈ (star (chars accepts)).ends unicode ⟨before, rest⟩,
      stop.rest = [] := by
  have hrounds : ∀ fuel, rest.length ≤ fuel → ∃ stop ∈
      rounds ((chars accepts).ends unicode) fuel ⟨before, rest⟩,
        stop.rest = [] := by
    induction rest generalizing before with
    | nil =>
        intro fuel hfuel
        refine ⟨⟨before, []⟩, ?_, rfl⟩
        rcases fuel with _ | fuel
        · exact List.mem_singleton_self _
        · exact List.mem_append_right _ (List.mem_singleton_self _)
    | cons c rest ih =>
        intro fuel hfuel
        rcases fuel with _ | fuel
        · simp at hfuel
        · obtain ⟨stop, hstop, hend⟩ :=
            ih (fun d hd => hrest d (List.mem_cons_of_mem c hd)) (some c) fuel
              (by simpa using hfuel)
          refine ⟨stop, List.mem_append_left _ ?_, hend⟩
          refine List.mem_flatMap.mpr ⟨⟨some c, rest⟩, ?_, hstop⟩
          refine List.mem_filter.mpr
            ⟨mem_ends_chars (hrest c List.mem_cons_self) before rest, ?_⟩
          simp
  exact hrounds rest.length le_rfl

variable (unicode) in
theorem exists_end_many {rest : List Char} (hne : rest ≠ [])
    (hrest : ∀ c ∈ rest, accepts c = true) (before : Option Char) :
    ∃ stop ∈ (many accepts).ends unicode ⟨before, rest⟩, stop.rest = [] := by
  rcases rest with _ | ⟨c, rest⟩
  · exact absurd rfl hne
  · obtain ⟨stop, hstop, hend⟩ := exists_end_star unicode
      (fun d hd => hrest d (List.mem_cons_of_mem c hd)) (some c)
    exact ⟨stop, mem_ends_seq
      (mem_ends_chars (hrest c List.mem_cons_self) before rest) hstop, hend⟩

section ToEnd

variable {body : Regex} {place : TextPlace}

theorem groupsFrom_textEnd (stop : TextPlace) :
    groupsFrom unicode [.plain textEnd] stop =
      if stop.rest = [] ∨ stop.rest = ['\n'] then some [] else none := by
  by_cases hend : stop.rest = [] ∨ stop.rest = ['\n']
  · simp [groupsFrom, Part.ends, ends, hend, Part.captured]
  · simp [groupsFrom, Part.ends, ends, hend]

/-- A group up to the end leaves at most a line feed. -/
theorem exists_of_groupsFrom_toEnd (hbody : MatchesOnly unicode accepts body)
    {groups : List String}
    (h : groupsFrom unicode [.group body, .plain textEnd] place =
      some groups) :
    ∃ matched left, place.rest = matched ++ left ∧
      (left = [] ∨ left = ['\n']) ∧ groups = [String.ofList matched] ∧
      ∀ c ∈ matched, accepts c = true := by
  obtain ⟨stop, hstop, hgroups⟩ := List.exists_of_findSome?_eq_some h
  obtain ⟨matched, hmatched, haccepts⟩ := hbody place stop hstop
  rw [groupsFrom_textEnd] at hgroups
  split at hgroups
  next hend =>
    obtain rfl := Option.some.inj hgroups
    have hgroup : between place stop = String.ofList matched := by
      rw [← String.toList_inj, toList_between hmatched, String.toList_ofList]
    refine ⟨matched, stop.rest, hmatched, hend, ?_, haccepts⟩
    simp [Part.captured, hgroup]
  next => cases hgroups

/-- A group at the end of a line is the rest of the line. -/
theorem groupsFrom_toEnd (hbody : MatchesOnly unicode accepts body)
    (hline : '\n' ∉ place.rest) {groups : List String}
    (h : groupsFrom unicode [.group body, .plain textEnd] place =
      some groups) :
    groups = [String.ofList place.rest] ∧
      ∀ c ∈ place.rest, accepts c = true := by
  obtain ⟨matched, left, hrest, hleft, hgroups, haccepts⟩ :=
    exists_of_groupsFrom_toEnd hbody h
  have hnil : left = [] := by
    rcases hleft with hnil | hbreak
    · exact hnil
    · rw [hrest, hbreak] at hline
      exact absurd (by simp) hline
  rw [hnil, List.append_nil] at hrest
  rw [hrest]
  exact ⟨hgroups, haccepts⟩

theorem groupsFrom_toEnd_eq_none (hbody : MatchesOnly unicode accepts body)
    {c : Char} (hc : accepts c = false) (hne : c ≠ '\n')
    (hmem : c ∈ place.rest) :
    groupsFrom unicode [.group body, .plain textEnd] place = none := by
  rw [Option.eq_none_iff_forall_not_mem]
  intro groups hgroups
  obtain ⟨matched, left, hrest, hleft, -, haccepts⟩ :=
    exists_of_groupsFrom_toEnd hbody hgroups
  rw [hrest, List.mem_append] at hmem
  rcases hmem with hmem | hmem
  · rw [haccepts c hmem] at hc
    cases hc
  · rcases hleft with rfl | rfl
    · cases hmem
    · exact hne (List.mem_singleton.mp hmem)

theorem groupsFrom_toEnd_of_mem (hbody : MatchesOnly unicode accepts body)
    (hline : '\n' ∉ place.rest)
    (hstop : ∃ stop ∈ body.ends unicode place, stop.rest = []) :
    groupsFrom unicode [.group body, .plain textEnd] place =
      some [String.ofList place.rest] := by
  obtain ⟨stop, hstop, hend⟩ := hstop
  rcases hgroups : groupsFrom unicode [.group body, .plain textEnd] place with
    _ | groups
  · have hnone := List.findSome?_eq_none_iff.mp hgroups stop hstop
    rw [groupsFrom_textEnd, if_pos (.inl hend)] at hnone
    cases hnone
  · rw [(groupsFrom_toEnd hbody hline hgroups).1]

end ToEnd

end Regex
