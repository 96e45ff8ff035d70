import UyuniAgent.Support.RegexGroups

/-!
# Matches in a context

A text in which a pattern matches may stand inside a longer one: the pattern
matches there as well, when no word goes across the seams and the pattern does
not ask for the end of the text.  And what a pattern matches depends on the
Unicode database only through the characters of the text.
-/

namespace Regex

/-! ## Searching -/

theorem searchFrom_iff {unicode : UnicodeData} {pattern : Regex}
    {before : Option Char} {text : List Char} :
    pattern.searchFrom unicode before text = true ↔
      ∃ first second, text = first ++ second ∧
        pattern.ends unicode ⟨first.getLast?.or before, second⟩ ≠ [] := by
  induction text generalizing before with
  | nil =>
      rw [searchFrom, Bool.not_eq_true', List.isEmpty_eq_false_iff]
      constructor
      · exact fun h => ⟨[], [], rfl, h⟩
      · rintro ⟨first, second, hsplit, h⟩
        obtain ⟨rfl, rfl⟩ := List.append_eq_nil_iff.mp hsplit.symm
        exact h
  | cons c rest ih =>
      rw [searchFrom, Bool.or_eq_true, Bool.not_eq_true',
        List.isEmpty_eq_false_iff, ih]
      constructor
      · rintro (h | ⟨first, second, rfl, h⟩)
        · exact ⟨[], c :: rest, rfl, h⟩
        · refine ⟨c :: first, second, rfl, ?_⟩
          rw [List.getLast?_cons]
          cases hlast : first.getLast? with
          | none => rwa [hlast] at h
          | some last => rwa [hlast] at h
      · rintro ⟨first, second, hsplit, h⟩
        rcases first with _ | ⟨d, first⟩
        · exact Or.inl (by rwa [hsplit])
        · obtain ⟨rfl, rfl⟩ := List.cons.inj hsplit
          refine Or.inr ⟨first, second, rfl, ?_⟩
          rw [List.getLast?_cons] at h
          cases hlast : first.getLast? with
          | none => rwa [hlast] at h
          | some last => rwa [hlast] at h

/-- A literal text that ends in a word character matches as a whole word
where no other one follows. -/
theorem search_literal_boundary_iff {unicode : UnicodeData} {text : String}
    {last : Char} (hlast : text.toList.getLast? = some last)
    (hword : unicode.isWord last = true) {line : String} :
    (seq (literal text) boundary).search unicode line = true ↔
      ∃ before after, line.toList = before ++ (text.toList ++ after) ∧
        ∀ c ∈ after.head?, unicode.isWord c = false := by
  have hmatches (start : TextPlace) :
      (seq (literal text) boundary).ends unicode start ≠ [] ↔
        ∃ after, start.rest = text.toList ++ after ∧
          ∀ c ∈ after.head?, unicode.isWord c = false := by
    constructor
    · intro hne
      obtain ⟨stop, hstop⟩ := List.exists_mem_of_ne_nil _ hne
      obtain ⟨middle, hmiddle, hstop⟩ := List.mem_flatMap.mp hstop
      obtain ⟨hrest, hbefore⟩ := mem_ends_literal_iff.mp hmiddle
      refine ⟨middle.rest, hrest, ?_⟩
      rw [ends] at hstop
      split at hstop
      next hboundary =>
        rw [atBoundary, hbefore, hlast, Option.some_or] at hboundary
        intro c hc
        simpa [Option.mem_def.mp hc, hword] using hboundary
      next => cases hstop
    · rintro ⟨after, hrest, hafter⟩
      have hboundary : atBoundary unicode ⟨some last, after⟩ = true := by
        rw [atBoundary]
        rcases hhead : after.head? with _ | c
        · simp [hword]
        · simp [hword, hafter c hhead]
      have hmiddle : ⟨some last, after⟩ ∈ (literal text).ends unicode start :=
        mem_ends_literal_iff.mpr ⟨hrest, by rw [hlast]; rfl⟩
      have hstop : ⟨some last, after⟩ ∈
          boundary.ends unicode ⟨some last, after⟩ := by
        rw [ends, if_pos hboundary]
        exact List.mem_singleton_self _
      exact List.ne_nil_of_mem (mem_ends_seq hmiddle hstop)
  rw [search, searchFrom_iff]
  constructor
  · rintro ⟨before, rest, hline, hends⟩
    obtain ⟨after, hrest, hafter⟩ := (hmatches _).mp hends
    exact ⟨before, after, by rw [hline, ← hrest], hafter⟩
  · rintro ⟨before, after, hline, hafter⟩
    exact ⟨before, _, hline, (hmatches _).mpr ⟨after, rfl, hafter⟩⟩

/-! ## Matches inside a longer text -/

/-- The place in a longer text, which goes on with the margin. -/
structure Within (unicode : UnicodeData) (margin : List Char)
    (place outer : TextPlace) : Prop where
  rest : outer.rest = place.rest ++ margin
  before : outer.before.any unicode.isWord = place.before.any unicode.isWord

/-- The pattern asks for the end of the text. -/
def asksForEnd : Regex → Bool
  | .textEnd => true
  | .seq first second | .alt first second =>
      first.asksForEnd || second.asksForEnd
  | .star body => body.asksForEnd
  | .chars _ | .boundary | .empty => false

section Context

variable {unicode : UnicodeData} {margin : List Char}
  {place outer stop : TextPlace}

theorem Within.next (h : Within unicode margin place outer)
    (hstop : stop ∈ place.next) :
    ∃ after ∈ outer.next, after.before = stop.before ∧
      Within unicode margin stop after := by
  rw [TextPlace.next] at hstop
  cases hrest : place.rest with
  | nil =>
      rw [hrest] at hstop
      cases hstop
  | cons c rest =>
      rw [hrest] at hstop
      obtain rfl := List.mem_singleton.mp hstop
      refine ⟨⟨some c, rest ++ margin⟩, ?_, rfl, rfl, rfl⟩
      rw [TextPlace.next, h.rest, hrest]
      exact List.mem_singleton_self _

theorem Within.atBoundary (hmargin : ∀ c ∈ margin, unicode.isWord c = false)
    (h : Within unicode margin place outer) :
    atBoundary unicode outer = atBoundary unicode place := by
  have hahead : outer.rest.head?.any unicode.isWord =
      place.rest.head?.any unicode.isWord := by
    rw [h.rest]
    cases place.rest with
    | cons c rest => rfl
    | nil =>
        cases hseam : margin with
        | nil => rfl
        | cons c rest => exact hmargin c (by rw [hseam]; exact .head _)
  rw [Regex.atBoundary, Regex.atBoundary, h.before, hahead]

/-- Longer fuel and a longer text do not lose the ends of a repetition. -/
theorem exists_round_within {inner step : TextPlace → List TextPlace}
    (hstep : ∀ place outer, Within unicode margin place outer →
      ∀ stop ∈ inner place, ∃ after ∈ step outer,
        Within unicode margin stop after)
    {fuel more : ℕ} (hfuel : fuel ≤ more)
    (h : Within unicode margin place outer)
    (hstop : stop ∈ rounds inner fuel place) :
    ∃ after ∈ rounds step more outer, Within unicode margin stop after := by
  induction fuel generalizing more place outer with
  | zero =>
      obtain rfl := List.mem_singleton.mp hstop
      refine ⟨outer, ?_, h⟩
      cases more with
      | zero => exact List.mem_singleton_self outer
      | succ more => exact List.mem_append_right _ (List.mem_singleton_self _)
  | succ fuel ih =>
      obtain ⟨more, rfl⟩ : ∃ n, more = n + 1 := ⟨more - 1, by omega⟩
      rw [rounds, List.mem_append, List.mem_singleton] at hstop
      rcases hstop with hround | rfl
      · obtain ⟨middle, hmiddle, hrest⟩ := List.mem_flatMap.mp hround
        obtain ⟨hmem, hshorter⟩ := List.mem_filter.mp hmiddle
        obtain ⟨after, hafter, hwithin⟩ := hstep place outer h middle hmem
        obtain ⟨last, hlast, hend⟩ := ih (Nat.le_of_succ_le_succ hfuel) hwithin
          hrest
        refine ⟨last, List.mem_append_left _ ?_, hend⟩
        refine List.mem_flatMap.mpr ⟨after, List.mem_filter.mpr
          ⟨hafter, ?_⟩, hlast⟩
        simp only [decide_eq_true_eq, h.rest, hwithin.rest,
          List.length_append] at hshorter ⊢
        omega
      · exact ⟨outer, List.mem_append_right _ (List.mem_singleton_self _), h⟩

/-- A match of a pattern that does not ask for the end of the text. -/
theorem exists_end_within (hmargin : ∀ c ∈ margin, unicode.isWord c = false)
    {pattern : Regex} (hpattern : pattern.asksForEnd = false)
    (h : Within unicode margin place outer)
    (hstop : stop ∈ pattern.ends unicode place) :
    ∃ after ∈ pattern.ends unicode outer, Within unicode margin stop after := by
  induction pattern generalizing place outer stop with
  | chars accepts =>
      obtain ⟨hnext, haccepts⟩ := List.mem_filter.mp hstop
      obtain ⟨after, hafter, hbefore, hwithin⟩ := h.next hnext
      exact ⟨after, List.mem_filter.mpr ⟨hafter, by rwa [hbefore]⟩, hwithin⟩
  | boundary =>
      rw [ends] at hstop
      split at hstop
      next hboundary =>
        obtain rfl := List.mem_singleton.mp hstop
        refine ⟨outer, ?_, h⟩
        rw [ends, if_pos (by rwa [h.atBoundary hmargin])]
        exact List.mem_singleton_self outer
      next => cases hstop
  | textEnd => cases hpattern
  | empty =>
      obtain rfl := List.mem_singleton.mp hstop
      exact ⟨outer, List.mem_singleton_self outer, h⟩
  | seq first second ihfirst ihsecond =>
      rw [asksForEnd, Bool.or_eq_false_iff] at hpattern
      obtain ⟨middle, hmiddle, hlast⟩ := List.mem_flatMap.mp hstop
      obtain ⟨between, hbetween, hwithin⟩ := ihfirst hpattern.1 h hmiddle
      obtain ⟨after, hafter, hend⟩ := ihsecond hpattern.2 hwithin hlast
      exact ⟨after, List.mem_flatMap.mpr ⟨between, hbetween, hafter⟩, hend⟩
  | alt first second ihfirst ihsecond =>
      rw [asksForEnd, Bool.or_eq_false_iff] at hpattern
      rcases List.mem_append.mp hstop with hfirst | hsecond
      · obtain ⟨after, hafter, hend⟩ := ihfirst hpattern.1 h hfirst
        exact ⟨after, List.mem_append_left _ hafter, hend⟩
      · obtain ⟨after, hafter, hend⟩ := ihsecond hpattern.2 h hsecond
        exact ⟨after, List.mem_append_right _ hafter, hend⟩
  | star body ih =>
      refine exists_round_within (fun _ _ hplace _ => ih hpattern hplace)
        ?_ h hstop
      rw [h.rest, List.length_append]
      omega

/-- A pattern that matches at a place matches there in the longer text. -/
def Persists (unicode : UnicodeData) (margin : List Char) (pattern : Regex) :
    Prop :=
  ∀ place outer, Within unicode margin place outer →
    pattern.ends unicode place ≠ [] → pattern.ends unicode outer ≠ []

theorem persists_of_not_asksForEnd
    (hmargin : ∀ c ∈ margin, unicode.isWord c = false) {pattern : Regex}
    (hpattern : pattern.asksForEnd = false) :
    Persists unicode margin pattern := by
  intro place outer h hends
  obtain ⟨stop, hstop⟩ := List.exists_mem_of_ne_nil _ hends
  obtain ⟨after, hafter, -⟩ := exists_end_within hmargin hpattern h hstop
  exact List.ne_nil_of_mem hafter

theorem Persists.alt {first second : Regex}
    (hfirst : Persists unicode margin first)
    (hsecond : Persists unicode margin second) :
    Persists unicode margin (alt first second) := by
  intro place outer h hends
  simp only [ends, ne_eq, List.append_eq_nil_iff, not_and_or] at hends ⊢
  exact hends.imp (hfirst place outer h) (hsecond place outer h)

theorem Persists.seq (hmargin : ∀ c ∈ margin, unicode.isWord c = false)
    {first second : Regex} (hfirst : first.asksForEnd = false)
    (hsecond : Persists unicode margin second) :
    Persists unicode margin (seq first second) := by
  intro place outer h hends
  obtain ⟨stop, hstop⟩ := List.exists_mem_of_ne_nil _ hends
  obtain ⟨middle, hmiddle, hlast⟩ := List.mem_flatMap.mp hstop
  obtain ⟨between, hbetween, hwithin⟩ :=
    exists_end_within hmargin hfirst h hmiddle
  obtain ⟨after, hafter⟩ := List.exists_mem_of_ne_nil _
    (hsecond middle between hwithin (List.ne_nil_of_mem hlast))
  exact List.ne_nil_of_mem (List.mem_flatMap.mpr ⟨between, hbetween, hafter⟩)

theorem Persists.last {pattern : Regex} (hpattern : Persists unicode margin
    pattern) : Persists unicode margin (Regex.seq pattern empty) := by
  have hends : ∀ place, (Regex.seq pattern empty).ends unicode place =
      pattern.ends unicode place := by
    intro place
    exact List.flatMap_singleton' _
  intro place outer h
  rw [hends, hends]
  exact hpattern place outer h

theorem persists_oneOf (hmargin : ∀ c ∈ margin, unicode.isWord c = false)
    {options : List Regex}
    (hoptions : ∀ pattern ∈ options, Persists unicode margin pattern) :
    Persists unicode margin (oneOf options) := by
  induction options with
  | nil => exact persists_of_not_asksForEnd hmargin rfl
  | cons option options ih =>
      exact Persists.alt (hoptions option List.mem_cons_self)
        (ih fun pattern h => hoptions pattern (List.mem_cons_of_mem _ h))

/-- `(?:\s|$)`, before a margin of white space. -/
theorem persists_space_or_end (hspace : ∀ c ∈ margin, PyText.isSpace c = true) :
    Persists unicode margin (Regex.alt space textEnd) := by
  have hmatch : ∀ c before rest, PyText.isSpace c = true →
      (Regex.alt space textEnd).ends unicode ⟨before, c :: rest⟩ ≠ [] := by
    intro c before rest hc
    simp [ends, space, TextPlace.next, hc]
  intro place outer h hends
  obtain ⟨before, rest⟩ := outer
  obtain rfl : rest = place.rest ++ margin := h.rest
  cases hrest : place.rest with
  | nil =>
      cases margin with
      | nil => simp [ends]
      | cons c margin => exact hmatch c before margin (hspace c (.head _))
  | cons c rest =>
      refine hmatch c before (rest ++ margin) ?_
      simp only [ends, space, TextPlace.next, hrest, ne_eq,
        List.append_eq_nil_iff, not_and_or] at hends
      rcases hends with hspace | hend
      · simpa using hspace
      · split at hend
        next hbreak =>
          rcases hbreak with hnil | hbreak
          · cases hnil
          · obtain ⟨rfl, -⟩ := List.cons.inj hbreak
            decide
        next => exact absurd rfl hend

/-- A pattern that is found in a text is found in the longer text. -/
theorem Persists.searchFrom {pattern : Regex}
    (hpattern : Persists unicode margin pattern) {lead text : List Char}
    (hlead : ∀ c ∈ lead, unicode.isWord c = false)
    (h : pattern.searchFrom unicode none text = true) :
    pattern.searchFrom unicode none (lead ++ text ++ margin) = true := by
  obtain ⟨first, second, rfl, hends⟩ := searchFrom_iff.mp h
  refine searchFrom_iff.mpr ⟨lead ++ first, second ++ margin, by simp, ?_⟩
  refine hpattern ⟨first.getLast?.or none, second⟩ _ ⟨rfl, ?_⟩ hends
  rw [List.getLast?_append]
  cases hfirst : first.getLast? with
  | some last => rfl
  | none =>
      cases hlast : lead.getLast? with
      | none => rfl
      | some last => exact hlead last (List.mem_of_getLast? hlast)

/-- A pattern that is found in the stripped text is found in the text. -/
theorem search_of_search_strip {pattern : Regex} {text : String}
    (hspaces : ∀ c, PyText.isSpace c = true → unicode.isWord c = false)
    (hpattern : ∀ margin, (∀ c ∈ margin, PyText.isSpace c = true) →
      Persists unicode margin pattern)
    (h : pattern.search unicode (PyText.strip text) = true) :
    pattern.search unicode text = true := by
  rw [search, PyText.strip, String.toList_ofList] at h
  have hmargin : ∀ c ∈
      (text.toList.dropWhile PyText.isSpace).rtakeWhile PyText.isSpace,
      PyText.isSpace c = true := fun c hc => List.mem_rtakeWhile_imp hc
  have hlead : ∀ c ∈ text.toList.takeWhile PyText.isSpace,
      unicode.isWord c = false :=
    fun c hc => hspaces c (List.mem_takeWhile_imp hc)
  have hfound := (hpattern _ hmargin).searchFrom hlead h
  rwa [List.append_assoc, List.rdropWhile_append_rtakeWhile,
    List.takeWhile_append_dropWhile] at hfound

end Context

/-! ## The characters of the text -/

section Words

variable {unicode unicode' : UnicodeData}

/-- Two databases see the same word characters around the place. -/
def SameWords (unicode unicode' : UnicodeData) (place : TextPlace) : Prop :=
  (∀ c ∈ place.before, unicode.isWord c = unicode'.isWord c) ∧
    ∀ c ∈ place.rest, unicode.isWord c = unicode'.isWord c

theorem SameWords.atBoundary {place : TextPlace}
    (h : SameWords unicode unicode' place) :
    atBoundary unicode place = atBoundary unicode' place := by
  obtain ⟨before, rest⟩ := place
  obtain ⟨hbefore, hrest⟩ := h
  have hbehind : before.any unicode.isWord = before.any unicode'.isWord := by
    cases before with
    | none => rfl
    | some c => exact hbefore c rfl
  have hahead : rest.head?.any unicode.isWord =
      rest.head?.any unicode'.isWord := by
    cases rest with
    | nil => rfl
    | cons c rest => exact hrest c List.mem_cons_self
  rw [Regex.atBoundary, Regex.atBoundary, hbehind, hahead]

theorem SameWords.rounds {step step' : TextPlace → List TextPlace}
    (hstep : ∀ place, SameWords unicode unicode' place →
      step place = step' place ∧
        ∀ stop ∈ step' place, SameWords unicode unicode' stop)
    (fuel : ℕ) {place : TextPlace} (h : SameWords unicode unicode' place) :
    rounds step fuel place = rounds step' fuel place ∧
      ∀ stop ∈ rounds step' fuel place, SameWords unicode unicode' stop := by
  induction fuel generalizing place with
  | zero =>
      refine ⟨rfl, fun stop hstop => ?_⟩
      rwa [List.mem_singleton.mp hstop]
  | succ fuel ih =>
      obtain ⟨hsame, hwords⟩ := hstep place h
      constructor
      · rw [Regex.rounds, Regex.rounds, hsame, List.append_left_inj]
        refine List.flatMap_congr fun middle hmiddle => ?_
        exact (ih (hwords middle (List.mem_filter.mp hmiddle).1)).1
      · intro stop hstop
        rcases List.mem_append.mp hstop with hround | hlast
        · obtain ⟨middle, hmiddle, hrest⟩ := List.mem_flatMap.mp hround
          exact (ih (hwords middle (List.mem_filter.mp hmiddle).1)).2 stop
            hrest
        · rwa [List.mem_singleton.mp hlast]

theorem SameWords.ends (pattern : Regex) {place : TextPlace}
    (h : SameWords unicode unicode' place) :
    pattern.ends unicode place = pattern.ends unicode' place ∧
      ∀ stop ∈ pattern.ends unicode' place,
        SameWords unicode unicode' stop := by
  induction pattern generalizing place with
  | chars accepts =>
      refine ⟨rfl, fun stop hstop => ?_⟩
      obtain ⟨hnext, -⟩ := List.mem_filter.mp hstop
      obtain ⟨before, rest⟩ := place
      cases rest with
      | nil => cases hnext
      | cons c rest =>
          obtain rfl := List.mem_singleton.mp hnext
          refine ⟨?_, fun d hd => h.2 d (List.mem_cons_of_mem c hd)⟩
          rintro d ⟨⟩
          exact h.2 c List.mem_cons_self
  | boundary =>
      rw [Regex.ends, Regex.ends, h.atBoundary]
      refine ⟨rfl, fun stop hstop => ?_⟩
      split at hstop
      · rwa [List.mem_singleton.mp hstop]
      · cases hstop
  | textEnd =>
      refine ⟨rfl, fun stop hstop => ?_⟩
      rw [Regex.ends] at hstop
      split at hstop
      · rwa [List.mem_singleton.mp hstop]
      · cases hstop
  | empty =>
      refine ⟨rfl, fun stop hstop => ?_⟩
      rwa [List.mem_singleton.mp hstop]
  | seq first second ihfirst ihsecond =>
      obtain ⟨hsame, hwords⟩ := ihfirst h
      constructor
      · rw [Regex.ends, Regex.ends, hsame]
        exact List.flatMap_congr fun middle hmiddle =>
          (ihsecond (hwords middle hmiddle)).1
      · intro stop hstop
        obtain ⟨middle, hmiddle, hlast⟩ := List.mem_flatMap.mp hstop
        exact (ihsecond (hwords middle hmiddle)).2 stop hlast
  | alt first second ihfirst ihsecond =>
      refine ⟨?_, fun stop hstop => ?_⟩
      · rw [Regex.ends, Regex.ends, (ihfirst h).1, (ihsecond h).1]
      · rcases List.mem_append.mp hstop with hfirst | hsecond
        · exact (ihfirst h).2 stop hfirst
        · exact (ihsecond h).2 stop hsecond
  | star body ih => exact h.rounds (fun _ hplace => ih hplace) _

/-- A search depends on the database through the characters of the text. -/
theorem SameWords.searchFrom (pattern : Regex) {before : Option Char}
    {text : List Char} (h : SameWords unicode unicode' ⟨before, text⟩) :
    pattern.searchFrom unicode before text =
      pattern.searchFrom unicode' before text := by
  induction text generalizing before with
  | nil => rw [Regex.searchFrom, Regex.searchFrom, (h.ends pattern).1]
  | cons c rest ih =>
      obtain ⟨hbefore, hwords⟩ := h
      have hrest : SameWords unicode unicode' ⟨some c, rest⟩ :=
        ⟨by rintro d ⟨⟩; exact hwords c List.mem_cons_self,
          fun d hd => hwords d (List.mem_cons_of_mem c hd)⟩
      rw [Regex.searchFrom, Regex.searchFrom, ih hrest,
        (SameWords.ends pattern ⟨hbefore, hwords⟩).1]

theorem search_congr_of_ascii (unicode unicode' : UnicodeData) (pattern : Regex)
    {text : String} (htext : ∀ c ∈ text.toList, c.toNat < 128) :
    pattern.search unicode text = pattern.search unicode' text := by
  refine SameWords.searchFrom pattern ⟨by rintro c ⟨⟩, fun c hc => ?_⟩
  rw [UnicodeData.isWord, UnicodeData.isWord,
    unicode.isAlnum_ascii c (htext c hc),
    unicode'.isAlnum_ascii c (htext c hc)]

end Words

end Regex
