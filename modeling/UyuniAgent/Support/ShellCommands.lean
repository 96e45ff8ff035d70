import UyuniAgent.Support.ShellTemplate

/-!
# The commands of a command line

The tokens of a line, put together to simple commands: the words of each, and
the redirections with their operators.  Which commands a line has depends on
its operators alone, so a template and its instances have the same commands.
-/

namespace Shell

structure SimpleCommand where
  words : List (List Symbol)
  redirects : List (List Char × List Symbol)
  deriving DecidableEq

/-- The commands read so far, the one being read, and the operator of a
redirection whose word is still to come. -/
structure Reading where
  done : List SimpleCommand
  current : SimpleCommand
  redirect : Option (List Char)
  deriving DecidableEq

namespace Reading

def initial : Reading := ⟨[], ⟨[], []⟩, none⟩

def step (r : Reading) : Token → Reading
  | .ioNumber _ => r
  | .operator text =>
      if controlOperators.contains text then
        ⟨r.done ++ [r.current], ⟨[], []⟩, none⟩
      else { r with redirect := some text }
  | .word word =>
      match r.redirect with
      | none =>
          { r with current.words := r.current.words ++ [word] }
      | some text =>
          { r with
            current.redirects := r.current.redirects ++ [(text, word)]
            redirect := none }

end Reading

/-- The commands of a line, without the empty ones around its operators. -/
def commands (tokens : List Token) : List SimpleCommand :=
  let r := tokens.foldl Reading.step .initial
  (r.done ++ [r.current]).filter fun command => !command.words.isEmpty

/-! ## Instances of a template -/

section Filling

variable {values : ℕ → String}

def SimpleCommand.fill (values : ℕ → String) (command : SimpleCommand) :
    SimpleCommand where
  words := command.words.map (fillWord values)
  redirects := command.redirects.map fun redirect =>
    (redirect.1, fillWord values redirect.2)

def Reading.fill (values : ℕ → String) (r : Reading) : Reading where
  done := r.done.map (SimpleCommand.fill values)
  current := r.current.fill values
  redirect := r.redirect

theorem Reading.step_fill (r : Reading) (token : Token) :
    (r.fill values).step (token.fill values) = (r.step token).fill values := by
  cases token with
  | ioNumber digits => rfl
  | operator text =>
      simp only [Token.fill, step]
      split
      next => simp [fill, SimpleCommand.fill]
      next => rfl
  | word word =>
      rcases r with ⟨done, current, _ | text⟩
      · simp [Token.fill, step, fill, SimpleCommand.fill]
      · simp [Token.fill, step, fill, SimpleCommand.fill]

theorem Reading.foldl_fill (r : Reading) (tokens : List Token) :
    (tokens.map (Token.fill values)).foldl Reading.step (r.fill values) =
      (tokens.foldl Reading.step r).fill values := by
  induction tokens generalizing r with
  | nil => rfl
  | cons token tokens ih =>
      rw [List.map_cons, List.foldl_cons, List.foldl_cons, step_fill, ih]

/-- The commands of an instance are those of the template, filled. -/
theorem commands_fill (tokens : List Token) :
    commands (tokens.map (Token.fill values)) =
      (commands tokens).map (SimpleCommand.fill values) := by
  have hfold : (tokens.map (Token.fill values)).foldl Reading.step .initial =
      (tokens.foldl Reading.step .initial).fill values :=
    Reading.foldl_fill .initial tokens
  have hempty : (fun command : SimpleCommand => !command.words.isEmpty) ∘
      SimpleCommand.fill values = fun command => !command.words.isEmpty := by
    funext command
    simp [SimpleCommand.fill]
  simp only [commands]
  rw [hfold]
  generalize tokens.foldl Reading.step .initial = r
  have hcommands : (r.fill values).done ++ [(r.fill values).current] =
      (r.done ++ [r.current]).map (SimpleCommand.fill values) := by
    simp [Reading.fill]
  rw [hcommands, List.filter_map, hempty]

/-! ## What a command does -/

/-- The first words of a command. -/
def SimpleCommand.Begins (names : List String) (command : SimpleCommand) :
    Prop :=
  names.map wordOf <+: command.words

instance (names : List String) (command : SimpleCommand) :
    Decidable (command.Begins names) :=
  inferInstanceAs (Decidable (names.map wordOf <+: command.words))

theorem fillWord_wordOf (text : String) :
    fillWord values (wordOf text) = wordOf text := by
  apply fillWord_of_no_hole
  simp [wordOf, Symbol.isHole]

theorem SimpleCommand.Begins.fill {names : List String}
    {command : SimpleCommand} (h : command.Begins names) :
    (command.fill values).Begins names := by
  have hmap : (names.map wordOf).map (fillWord values) = names.map wordOf := by
    rw [List.map_map]
    exact List.map_congr_left fun name _ => fillWord_wordOf name
  have hprefix := List.IsPrefix.map (fillWord values) h
  rwa [hmap] at hprefix

/-- A command that begins like a listed one, and whose redirections are
listed. -/
structure SimpleCommand.Within (beginnings : List (List String))
    (redirections : List (String × String)) (command : SimpleCommand) :
    Prop where
  begins : ∃ names ∈ beginnings, command.Begins names
  redirects : ∀ redirect ∈ command.redirects, ∃ listed ∈ redirections,
    redirect = (listed.1.toList, wordOf listed.2)

instance (beginnings : List (List String))
    (redirections : List (String × String)) (command : SimpleCommand) :
    Decidable (command.Within beginnings redirections) :=
  decidable_of_iff
    ((∃ names ∈ beginnings, command.Begins names) ∧
      ∀ redirect ∈ command.redirects, ∃ listed ∈ redirections,
        redirect = (listed.1.toList, wordOf listed.2))
    ⟨fun h => ⟨h.1, h.2⟩, fun h => ⟨h.begins, h.redirects⟩⟩

/-- What holds of the commands of a template holds of every instance. -/
theorem SimpleCommand.Within.fill {beginnings : List (List String)}
    {redirections : List (String × String)} {command : SimpleCommand}
    (h : command.Within beginnings redirections) :
    (command.fill values).Within beginnings redirections := by
  obtain ⟨⟨names, hnames, hbegins⟩, hredirects⟩ := h
  refine ⟨⟨names, hnames, hbegins.fill⟩, ?_⟩
  intro redirect hredirect
  obtain ⟨⟨operator, word⟩, hmem, rfl⟩ := List.mem_map.mp hredirect
  obtain ⟨listed, hlisted, heq⟩ := hredirects _ hmem
  obtain ⟨rfl, rfl⟩ := Prod.mk.inj heq
  exact ⟨listed, hlisted, by rw [fillWord_wordOf]⟩

theorem within_of_template {beginnings : List (List String)}
    {redirections : List (String × String)} {tokens : List Token}
    (h : ∀ command ∈ commands tokens,
      command.Within beginnings redirections) :
    ∀ command ∈ commands (tokens.map (Token.fill values)),
      command.Within beginnings redirections := by
  intro command hcommand
  rw [commands_fill] at hcommand
  obtain ⟨shape, hshape, rfl⟩ := List.mem_map.mp hcommand
  exact (h shape hshape).fill

end Filling

end Shell
