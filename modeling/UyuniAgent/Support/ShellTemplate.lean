import UyuniAgent.Support.Shell

/-!
# Templates of shell commands

A template can be cut into tokens first and filled with its arguments
afterwards, when the arguments are spelled so that the shell takes them
literally.  Which words a program reads as operands is then a matter of the
template, and whether it mistakes one for an option a matter of the argument.
-/

namespace Shell

/-! ## Filling a template -/

section Filling

variable {values : ℕ → String}

theorem fillWord_append (first second : List Symbol) :
    fillWord values (first ++ second) =
      fillWord values first ++ fillWord values second :=
  List.flatMap_append

theorem fillWord_concat_char (word : List Symbol) (c : Char) :
    fillWord values (word ++ [.char c]) = fillWord values word ++ [.char c] :=
  fillWord_append word [.char c]

theorem fillWord_concat_hole (word : List Symbol) (index : ℕ) :
    fillWord values (word ++ [.hole index]) =
      fillWord values word ++ (values index).toList.map .char := by
  rw [fillWord_append]
  simp [fillWord, Symbol.fill]

theorem fillWord_of_no_hole {word : List Symbol}
    (h : word.any Symbol.isHole = false) : fillWord values word = word := by
  induction word with
  | nil => rfl
  | cons symbol word ih =>
      rw [List.any_cons, Bool.or_eq_false_iff] at h
      cases symbol with
      | char c => exact congrArg (Symbol.char c :: ·) (ih h.2)
      | hole index => cases h.1

/-- After a quoted argument the filled text may be spelled in any way. -/
inductive ModeFits : Mode → Mode → Prop
  | same (mode : Mode) : ModeFits mode mode
  | either (spelling : Spelling) :
      ModeFits (.unquoted .either) (.unquoted spelling)

/-- A state over the filled text, next to one over the template. -/
structure Filled (values : ℕ → String) (s t : State) : Prop where
  tokens : t.tokens = s.tokens.map (Token.fill values)
  word : t.word = fillWord values s.word
  mode : ModeFits s.mode t.mode

namespace Filled

variable {s t s' : State} {c : Char}

theorem mode_eq (h : Filled values s t) {mode : Mode} (hs : s.mode = mode)
    (hne : mode ≠ .unquoted .either) : t.mode = mode := by
  have hmode := h.mode
  rw [hs] at hmode
  generalize t.mode = mode' at hmode
  cases hmode with
  | same => rfl
  | either spelling => exact absurd rfl hne

theorem mode_unquoted (h : Filled values s t) {spelling : Spelling}
    (hs : s.mode = .unquoted spelling) :
    ∃ spelling', t.mode = .unquoted spelling' ∧
      ModeFits (.unquoted spelling) (.unquoted spelling') := by
  have hmode := h.mode
  rw [hs] at hmode
  generalize t.mode = mode' at hmode ⊢
  cases hmode with
  | same => exact ⟨spelling, rfl, .same _⟩
  | either spelling' => exact ⟨spelling', rfl, .either spelling'⟩

theorem withMode (h : Filled values s t) (mode : Mode) :
    Filled values { s with mode := mode } { t with mode := mode } :=
  ⟨h.tokens, h.word, .same mode⟩

theorem push (h : Filled values s t) (c : Char) {mode mode' : Mode}
    (hmode : ModeFits mode mode') :
    Filled values (s.push (.char c) mode) (t.push (.char c) mode') :=
  ⟨h.tokens, by
    change t.word ++ [.char c] = fillWord values (s.word ++ [.char c])
    rw [h.word, fillWord_concat_char], hmode⟩

theorem emit (h : Filled values s t) (token : Token) :
    Filled values (s.emit token) (t.emit (token.fill values)) :=
  ⟨by
    change t.tokens ++ [token.fill values] = (s.tokens ++ [token]).map _
    rw [h.tokens, List.map_append, List.map_singleton], rfl, .same _⟩

theorem emit_word (h : Filled values s t) :
    Filled values (s.emit (.word s.word)) (t.emit (.word t.word)) := by
  have hemit := h.emit (.word s.word)
  rwa [Token.fill, ← h.word] at hemit

theorem inWord (h : Filled values s t) {spelling spelling' : Spelling}
    (hspelling : ModeFits (.unquoted spelling) (.unquoted spelling'))
    (hs : s.inWord spelling c = some s') :
    ∃ t', t.inWord spelling' c = some t' ∧ Filled values s' t' := by
  simp only [State.inWord] at hs ⊢
  split_ifs at hs ⊢
  · obtain rfl := Option.some.inj hs
    exact ⟨_, rfl, h.withMode .single⟩
  · obtain rfl := Option.some.inj hs
    exact ⟨_, rfl, h.withMode .double⟩
  · obtain rfl := Option.some.inj hs
    exact ⟨_, rfl, h.withMode .escape⟩
  · obtain rfl := Option.some.inj hs
    exact ⟨_, rfl, h.push c hspelling⟩

theorem apart (h : Filled values s t) (hs : s.apart c = some s') :
    ∃ t', t.apart c = some t' ∧ Filled values s' t' := by
  simp only [State.apart] at hs ⊢
  split_ifs at hs ⊢
  · obtain rfl := Option.some.inj hs
    exact ⟨_, rfl, h.withMode .between⟩
  · obtain rfl := Option.some.inj hs
    exact ⟨_, rfl, h.withMode (.operator [c])⟩
  · exact h.inWord (.same _) hs

theorem redirected (h : Filled values s t) {spelling spelling' : Spelling}
    (hspelling : ModeFits (.unquoted spelling) (.unquoted spelling'))
    {token : Token} (hs : s.redirected spelling = some token) :
    t.redirected spelling' = some (token.fill values) := by
  cases hspelling with
  | either => cases hs
  | same =>
      cases spelling with
      | either => cases hs
      | quoted =>
          obtain rfl := Option.some.inj hs
          simp only [State.redirected, Token.fill, h.word]
      | literal =>
          simp only [State.redirected] at hs ⊢
          split at hs
          next => cases hs
          next hhole =>
            have hsame : fillWord values s.word = s.word :=
              fillWord_of_no_hole (Bool.not_eq_true _ ▸ hhole)
            rw [h.word, hsame, if_neg hhole]
            split at hs
            next hdigits =>
              obtain rfl := Option.some.inj hs
              rw [if_pos hdigits, Token.fill, hsame]
            next hdigits =>
              obtain rfl := Option.some.inj hs
              rw [if_neg hdigits, Token.fill, hsame]

theorem stepChar_unquoted (h : Filled values s t) {spelling : Spelling}
    (hs : s.mode = .unquoted spelling) (hstep : s.stepChar c = some s') :
    ∃ t', t.stepChar c = some t' ∧ Filled values s' t' := by
  obtain ⟨spelling', ht, hspelling⟩ := h.mode_unquoted hs
  simp only [State.stepChar, hs] at hstep
  simp only [State.stepChar, ht]
  split_ifs at hstep ⊢
  · obtain ⟨token, htoken, hafter⟩ := Option.bind_eq_some_iff.mp hstep
    obtain ⟨t', ht', hfilled⟩ := (h.emit token).apart hafter
    refine ⟨t', ?_, hfilled⟩
    rw [h.redirected hspelling htoken]
    exact ht'
  · exact h.emit_word.apart hstep
  · exact h.inWord hspelling hstep

theorem stepChar (h : Filled values s t) (hstep : s.stepChar c = some s') :
    ∃ t', t.stepChar c = some t' ∧ Filled values s' t' := by
  cases hs : s.mode with
  | unquoted spelling => exact h.stepChar_unquoted hs hstep
  | between =>
      simp only [State.stepChar, hs] at hstep
      simp only [State.stepChar, h.mode_eq hs (by simp)]
      exact h.apart hstep
  | single =>
      simp only [State.stepChar, hs] at hstep
      simp only [State.stepChar, h.mode_eq hs (by simp)]
      split_ifs at hstep ⊢
      · obtain rfl := Option.some.inj hstep
        exact ⟨_, rfl, h.withMode _⟩
      · obtain rfl := Option.some.inj hstep
        exact ⟨_, rfl, h.push c (.same _)⟩
  | double =>
      simp only [State.stepChar, hs] at hstep
      simp only [State.stepChar, h.mode_eq hs (by simp)]
      split_ifs at hstep ⊢
      · obtain rfl := Option.some.inj hstep
        exact ⟨_, rfl, h.withMode _⟩
      · obtain rfl := Option.some.inj hstep
        exact ⟨_, rfl, h.withMode _⟩
      · obtain rfl := Option.some.inj hstep
        exact ⟨_, rfl, h.push c (.same _)⟩
  | escape =>
      simp only [State.stepChar, hs] at hstep
      simp only [State.stepChar, h.mode_eq hs (by simp)]
      split_ifs at hstep ⊢
      obtain rfl := Option.some.inj hstep
      exact ⟨_, rfl, h.push c (.same _)⟩
  | doubleEscape =>
      simp only [State.stepChar, hs] at hstep
      simp only [State.stepChar, h.mode_eq hs (by simp)]
      split_ifs at hstep ⊢
      · obtain rfl := Option.some.inj hstep
        exact ⟨_, rfl, h.withMode _⟩
      · obtain rfl := Option.some.inj hstep
        exact ⟨_, rfl, h.push c (.same _)⟩
      · obtain rfl := Option.some.inj hstep
        exact ⟨_, rfl, (h.push '\\' (.same .double)).push c (.same _)⟩
  | operator read =>
      simp only [State.stepChar, hs] at hstep
      simp only [State.stepChar, h.mode_eq hs (by simp)]
      split_ifs at hstep ⊢
      · obtain rfl := Option.some.inj hstep
        exact ⟨_, rfl, h.withMode _⟩
      · exact (h.emit (.operator read)).apart hstep

theorem append (h : Filled values s t) (index : ℕ) {mode mode' : Mode}
    (hmode : ModeFits mode mode') :
    Filled values (s.push (.hole index) mode)
      (t.append (values index).toList mode') :=
  ⟨h.tokens, by
    change t.word ++ _ = fillWord values (s.word ++ [.hole index])
    rw [h.word, fillWord_concat_hole], hmode⟩

theorem raw (h : Filled values s t) {index : ℕ}
    (hplain : IsPlainText (values index))
    (hstep : s.step (.raw index) = some s') :
    ∃ t', t.run ((values index).toList.map .char) = some t' ∧
      Filled values s' t' := by
  obtain ⟨hempty, hall⟩ := hplain
  simp only [State.step] at hstep
  split at hstep
  next hs =>
    obtain rfl := Option.some.inj hstep
    have hne : (values index).toList ≠ [] :=
      mt String.toList_eq_nil_iff.mp hempty
    exact ⟨_, State.run_between hall hne (h.mode_eq hs (by simp)),
      h.append index (.same _)⟩
  next spelling hs =>
    obtain rfl := Option.some.inj hstep
    obtain ⟨spelling', ht, hmode⟩ := h.mode_unquoted hs
    exact ⟨_, State.run_unquoted hall ht, h.append index hmode⟩
  next hs =>
    obtain rfl := Option.some.inj hstep
    have hquote : '\'' ∉ (values index).toList := by
      intro hmem
      exact isPlain_special (hall _ hmem) (by decide)
    exact ⟨_, State.run_single hquote (h.mode_eq hs (by simp)),
      h.append index (.same _)⟩
  next => cases hstep

theorem quoted (h : Filled values s t) {index : ℕ}
    (hstep : s.step (.quoted index) = some s') :
    ∃ t', t.run ((quote (values index).toList).map .char) = some t' ∧
      Filled values s' t' := by
  have hword : t.AtWord ∧
      s' = s.push (.hole index) (.unquoted .either) := by
    simp only [State.step] at hstep
    split at hstep
    next hs =>
      exact ⟨Or.inl (h.mode_eq hs (by simp)), (Option.some.inj hstep).symm⟩
    next spelling hs =>
      obtain ⟨spelling', ht, -⟩ := h.mode_unquoted hs
      exact ⟨Or.inr ⟨spelling', ht⟩, (Option.some.inj hstep).symm⟩
    next => cases hstep
  obtain ⟨hat, rfl⟩ := hword
  obtain ⟨spelling, hrun⟩ := State.run_quote (values index).toList hat
  exact ⟨_, hrun, h.append index (.either spelling)⟩

theorem chars (h : Filled values s t) {text : List Char}
    (hrun : s.run (text.map .char) = some s') :
    ∃ t', t.run (text.map .char) = some t' ∧ Filled values s' t' := by
  induction text generalizing s t with
  | nil =>
      obtain rfl := Option.some.inj hrun
      exact ⟨t, rfl, h⟩
  | cons c text ih =>
      obtain ⟨next, hnext, hrest⟩ := Option.bind_eq_some_iff.mp hrun
      obtain ⟨t', ht', hfilled⟩ := h.stepChar hnext
      obtain ⟨t'', ht'', hfinal⟩ := ih hfilled hrest
      exact ⟨t'', (State.run_cons ht').trans ht'', hfinal⟩

theorem run (h : Filled values s t) {layout : List (Piece ℕ)}
    (hraw : ∀ index ∈ rawHoles layout, IsPlainText (values index))
    (hrun : s.run (layout.flatMap Piece.inputs) = some s') :
    ∃ t', t.run (((layout.map (Piece.map values)).flatMap
      Piece.render).map .char) = some t' ∧ Filled values s' t' := by
  induction layout generalizing s t with
  | nil =>
      obtain rfl := Option.some.inj hrun
      exact ⟨t, rfl, h⟩
  | cons piece layout ih =>
      rw [List.flatMap_cons, State.run_append] at hrun
      obtain ⟨next, hnext, hrest⟩ := Option.bind_eq_some_iff.mp hrun
      have hpiece : ∃ t', t.run ((piece.map values).render.map .char) =
          some t' ∧ Filled values next t' := by
        cases piece with
        | literal text => exact h.chars hnext
        | raw index =>
            have hstep : s.step (.raw index) = some next := by
              simpa [Piece.inputs, State.run] using hnext
            exact h.raw (hraw index (by simp [rawHoles])) hstep
        | quoted index =>
            have hstep : s.step (.quoted index) = some next := by
              simpa [Piece.inputs, State.run] using hnext
            exact h.quoted hstep
      obtain ⟨t', ht', hfilled⟩ := hpiece
      have hlayout : ∀ index ∈ rawHoles layout, IsPlainText (values index) := by
        intro index hindex
        apply hraw index
        cases piece with
        | raw other => exact List.mem_cons_of_mem other hindex
        | literal text => exact hindex
        | quoted other => exact hindex
      obtain ⟨t'', ht'', hfinal⟩ := ih hfilled hlayout hrest
      refine ⟨t'', ?_, hfinal⟩
      rw [List.map_cons, List.flatMap_cons, List.map_append, State.run_append,
        ht', Option.bind_some, ht'']

theorem finish (h : Filled values s t) {tokens : List Token}
    (hs : s.finish = some tokens) :
    t.finish = some (tokens.map (Token.fill values)) := by
  simp only [State.finish] at hs
  split at hs
  next hmode =>
    obtain rfl := Option.some.inj hs
    simp only [State.finish, h.mode_eq hmode (by simp), h.tokens]
  next spelling hmode =>
    obtain rfl := Option.some.inj hs
    obtain ⟨spelling', ht, -⟩ := h.mode_unquoted hmode
    simp only [State.finish, ht, h.emit_word.tokens]
  next read hmode =>
    obtain rfl := Option.some.inj hs
    have hemit := (h.emit (.operator read)).tokens
    rw [Token.fill] at hemit
    simp only [State.finish, h.mode_eq hmode (by simp), hemit]
  next => cases hs

end Filled

/-- A template can be cut first and filled afterwards. -/
theorem split_render {layout : List (Piece ℕ)} {tokens : List Token}
    (hraw : ∀ index ∈ rawHoles layout, IsPlainText (values index))
    (h : template layout = some tokens) :
    split (render (layout.map (Piece.map values))) =
      some (tokens.map (Token.fill values)) := by
  obtain ⟨s, hs, hfinish⟩ := Option.bind_eq_some_iff.mp h
  have hinitial : Filled values State.initial State.initial :=
    ⟨rfl, rfl, .same _⟩
  obtain ⟨t, ht, hfilled⟩ := hinitial.run hraw hs
  rw [split, render, String.toList_ofList, lex, ht]
  exact hfilled.finish hfinish

end Filling

/-! ## Operands -/

/-- The word that a text stands for. -/
def wordOf (text : String) : List Symbol := text.toList.map .char

/-- The operators that begin another command. -/
def controlOperators : List (List Char) :=
  ["|", "||", "&", "&&", ";", ";;", "(", ")", "\n"].map String.toList

/-- Where the words of a command have got to: the program, whether the option
before takes the next word, whether a redirection does, and whether `--` has
come. -/
structure Place where
  program : Option (List Symbol)
  takesNext : Bool
  redirects : Bool
  ended : Bool

def Place.start : Place := ⟨none, false, false, false⟩

/-- The options of each program whose argument is the next word. -/
abbrev OptionTable := List (String × List String)

def OptionTable.takesArgument (table : OptionTable)
    (program option : List Symbol) : Bool :=
  table.any fun entry =>
    wordOf entry.1 = program && entry.2.any fun name => wordOf name = option

/-- The words in operand position that no `--` stands in front of. -/
def unguarded (table : OptionTable) : Place → List Token → List (List Symbol)
  | _, [] => []
  | place, .ioNumber _ :: rest => unguarded table place rest
  | place, .operator text :: rest =>
      if controlOperators.contains text then unguarded table .start rest
      else unguarded table { place with redirects := true } rest
  | place, .word word :: rest =>
      if place.redirects then
        unguarded table { place with redirects := false } rest
      else
        match place.program with
        | none => unguarded table { place with program := some word } rest
        | some program =>
            if place.takesNext then
              unguarded table { place with takesNext := false } rest
            else if place.ended then unguarded table place rest
            else if word = wordOf "--" then
              unguarded table { place with ended := true } rest
            else if word.head? = some (.char '-') then
              unguarded table
                { place with takesNext := table.takesArgument program word }
                rest
            else word :: unguarded table place rest

/-- No filled operand is read as an option. -/
def OperandsGuarded (table : OptionTable) (values : ℕ → String)
    (tokens : List Token) : Prop :=
  ∀ word ∈ unguarded table .start tokens,
    (fillWord values word).head? ≠ some (.char '-')

/-- The operands of a template whose beginning is left to an argument. -/
def openOperands (table : OptionTable) (tokens : List Token) :
    List (List Symbol) :=
  (unguarded table .start tokens).filter fun word =>
    word.head?.any Symbol.isHole

theorem head?_of_mem_unguarded {table : OptionTable} {place : Place}
    {tokens : List Token} {word : List Symbol}
    (h : word ∈ unguarded table place tokens) :
    word.head? ≠ some (.char '-') := by
  induction tokens generalizing place with
  | nil => cases h
  | cons token rest ih =>
      cases token with
      | ioNumber digits => exact ih h
      | operator text =>
          rw [unguarded] at h
          split at h
          next => exact ih h
          next => exact ih h
      | word operand =>
          rw [unguarded] at h
          split at h
          next => exact ih h
          next =>
            split at h
            next => exact ih h
            next program _ =>
              split_ifs at h with htakes hended hdashes hoption
              · exact ih h
              · exact ih h
              · exact ih h
              · exact ih h
              · rcases List.mem_cons.mp h with rfl | hmem
                · exact hoption
                · exact ih hmem

/-- Only the operands that begin with an argument can be mistaken for an
option. -/
theorem operandsGuarded_iff {table : OptionTable} {values : ℕ → String}
    {tokens : List Token} :
    OperandsGuarded table values tokens ↔
      ∀ word ∈ openOperands table tokens,
        (fillWord values word).head? ≠ some (.char '-') := by
  constructor
  · intro h word hword
    exact h word (List.mem_filter.mp hword).1
  · intro h word hword
    have hhead := head?_of_mem_unguarded hword
    rcases word with _ | ⟨symbol, rest⟩
    · simp [fillWord]
    · cases symbol with
      | char c => simpa [fillWord, Symbol.fill] using hhead
      | hole index =>
          exact h _ (List.mem_filter.mpr ⟨hword, rfl⟩)

end Shell
