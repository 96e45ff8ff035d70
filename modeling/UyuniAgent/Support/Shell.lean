import Mathlib.Data.List.Basic

/-!
# Words and operators of a shell command

A text is cut into words and operators by the rules of POSIX for blanks,
operators and quoting.  Texts with expansions, patterns or comments have no
result here.  The lexer also reads templates, in which numbered holes stand for
arguments.
-/

namespace Shell

/-! ## Tokens -/

/-- What a word is made of. -/
inductive Symbol
  | char (c : Char)
  | hole (index : ℕ)
  deriving DecidableEq

def Symbol.isDigit : Symbol → Bool
  | .char c => c.isDigit
  | .hole _ => false

def Symbol.isHole : Symbol → Bool
  | .char _ => false
  | .hole _ => true

inductive Token
  | word (symbols : List Symbol)
  /-- The digits in front of a redirection. -/
  | ioNumber (digits : List Symbol)
  | operator (text : List Char)
  deriving DecidableEq

/-- A character, or an argument that is written as it is or quoted. -/
inductive Input
  | char (c : Char)
  | raw (index : ℕ)
  | quoted (index : ℕ)
  deriving DecidableEq

/-- How the current word has been spelled so far; of a quoted argument it is
not known whether its text needed quotes. -/
inductive Spelling
  | literal
  | quoted
  | either
  deriving DecidableEq

inductive Mode
  | between
  | unquoted (spelling : Spelling)
  | single
  | double
  | escape
  | doubleEscape
  | operator (read : List Char)
  deriving DecidableEq

structure State where
  tokens : List Token
  word : List Symbol
  mode : Mode
  deriving DecidableEq

/-! ## The lexer -/

def blanks : List Char := [' ', '\t']

def operatorChars : List Char := ['|', '&', ';', '<', '>', '(', ')', '\n']

/-- Characters that expand or match something outside quotes. -/
def activeChars : List Char :=
  ['$', Char.ofNat 0x60, '*', '?', '[', ']', '{', '}', '~', '#', '!']

def operators : List (List Char) :=
  [['|'], ['|', '|'], ['&'], ['&', '&'], [';'], [';', ';'], ['<'], ['>'],
    ['<', '<'], ['>', '>'], ['<', '&'], ['>', '&'], ['<', '>'], ['>', '|'],
    ['<', '<', '-'], ['('], [')'], ['\n']]

namespace State

def initial : State := ⟨[], [], .between⟩

def push (s : State) (symbol : Symbol) (mode : Mode) : State :=
  ⟨s.tokens, s.word ++ [symbol], mode⟩

def emit (s : State) (token : Token) : State :=
  ⟨s.tokens ++ [token], [], .between⟩

/-- A character that begins a word or goes on with it. -/
def inWord (s : State) (spelling : Spelling) (c : Char) : Option State :=
  if c = '\'' then some { s with mode := .single }
  else if c = '"' then some { s with mode := .double }
  else if c = '\\' then some { s with mode := .escape }
  else if c ∈ activeChars then none
  else some (s.push (.char c) (.unquoted spelling))

/-- A character that does not belong to a word yet. -/
def apart (s : State) (c : Char) : Option State :=
  if c ∈ blanks then some { s with mode := .between }
  else if c ∈ operatorChars then some { s with mode := .operator [c] }
  else s.inWord .literal c

/-- The token that stands in front of a redirection. -/
def redirected (s : State) : Spelling → Option Token
  | .quoted => some (.word s.word)
  | .either => none
  | .literal =>
      if s.word.any Symbol.isHole then none
      else if s.word.all Symbol.isDigit then some (.ioNumber s.word)
      else some (.word s.word)

def stepChar (s : State) (c : Char) : Option State :=
  match s.mode with
  | .between => s.apart c
  | .unquoted spelling =>
      if c = '<' ∨ c = '>' then
        (s.redirected spelling).bind fun token => (s.emit token).apart c
      else if c ∈ blanks ∨ c ∈ operatorChars then
        (s.emit (.word s.word)).apart c
      else s.inWord spelling c
  | .single =>
      if c = '\'' then some { s with mode := .unquoted .quoted }
      else some (s.push (.char c) .single)
  | .double =>
      if c = '"' then some { s with mode := .unquoted .quoted }
      else if c = '\\' then some { s with mode := .doubleEscape }
      else if c ∈ "$`".toList then none
      else some (s.push (.char c) .double)
  | .escape =>
      if c = '\n' then none else some (s.push (.char c) (.unquoted .quoted))
  | .doubleEscape =>
      if c = '\n' then some { s with mode := .double }
      else if c ∈ "$`\"\\".toList then some (s.push (.char c) .double)
      else some ((s.push (.char '\\') .double).push (.char c) .double)
  | .operator read =>
      if read ++ [c] ∈ operators then
        some { s with mode := .operator (read ++ [c]) }
      else (s.emit (.operator read)).apart c

def step (s : State) : Input → Option State
  | .char c => s.stepChar c
  | .raw index =>
      match s.mode with
      | .between => some (s.push (.hole index) (.unquoted .literal))
      | .unquoted spelling => some (s.push (.hole index) (.unquoted spelling))
      | .single => some (s.push (.hole index) .single)
      | _ => none
  | .quoted index =>
      match s.mode with
      | .between | .unquoted _ =>
          some (s.push (.hole index) (.unquoted .either))
      | _ => none

def finish (s : State) : Option (List Token) :=
  match s.mode with
  | .between => some s.tokens
  | .unquoted _ => some (s.emit (.word s.word)).tokens
  | .operator read => some (s.emit (.operator read)).tokens
  | _ => none

def run (s : State) (inputs : List Input) : Option State :=
  inputs.foldlM step s

theorem run_append (s : State) (first second : List Input) :
    s.run (first ++ second) = (s.run first).bind fun t => t.run second :=
  List.foldlM_append

end State

def lex (inputs : List Input) : Option (List Token) :=
  (State.initial.run inputs).bind State.finish

def split (text : String) : Option (List Token) :=
  lex (text.toList.map .char)

/-! ## Quoting -/

/-- The characters that `shlex.quote` leaves alone. -/
def isPlain (c : Char) : Bool :=
  ('A' ≤ c && c ≤ 'Z') || ('a' ≤ c && c ≤ 'z') || c.isDigit ||
    c ∈ "_@%+=:,./-".toList

/-- `shlex.quote`. -/
def quote (text : List Char) : List Char :=
  if text = [] then "''".toList
  else if text.all isPlain then text
  else
    '\'' :: text.flatMap (fun c =>
      if c = '\'' then "'\"'\"'".toList else [c]) ++ ['\'']

/-! ## Templates -/

/-- A piece of a format string: text, a value, or a quoted value. -/
inductive Piece (α : Type)
  | literal (text : String)
  | raw (value : α)
  | quoted (value : α)
  deriving DecidableEq

namespace Piece

variable {α β : Type}

def map (f : α → β) : Piece α → Piece β
  | .literal text => .literal text
  | .raw value => .raw (f value)
  | .quoted value => .quoted (f value)

def render : Piece String → List Char
  | .literal text => text.toList
  | .raw value => value.toList
  | .quoted value => quote value.toList

def inputs : Piece ℕ → List Input
  | .literal text => text.toList.map .char
  | .raw index => [.raw index]
  | .quoted index => [.quoted index]

end Piece

/-- The text of a format string. -/
def render (pieces : List (Piece String)) : String :=
  String.ofList (pieces.flatMap Piece.render)

/-- The tokens of a format string with holes for its values. -/
def template (layout : List (Piece ℕ)) : Option (List Token) :=
  lex (layout.flatMap Piece.inputs)

/-- The values of the format string that are written as they are. -/
def rawHoles (layout : List (Piece ℕ)) : List ℕ :=
  layout.filterMap fun piece =>
    match piece with
    | .raw index => some index
    | _ => none

section Fill

variable (values : ℕ → String)

def Symbol.fill : Symbol → List Symbol
  | .char c => [.char c]
  | .hole index => (values index).toList.map .char

def fillWord (word : List Symbol) : List Symbol :=
  word.flatMap (Symbol.fill values)

def Token.fill : Token → Token
  | .word symbols => .word (fillWord values symbols)
  | .ioNumber digits => .ioNumber (fillWord values digits)
  | .operator text => .operator text

end Fill

/-! ## Literal texts -/

/-- A text that the shell takes as it is, in a word or in single quotes. -/
def IsPlainText (text : String) : Prop :=
  text ≠ "" ∧ ∀ c ∈ text.toList, isPlain c = true

theorem isPlain_special {c : Char} (hc : isPlain c = true) :
    c ∉ blanks ++ operatorChars ++ activeChars ++ ['\'', '"', '\\'] := by
  intro hmem
  have hspecial : (blanks ++ operatorChars ++ activeChars ++
      ['\'', '"', '\\']).all (fun d => !isPlain d) = true := by
    decide
  have hnot := List.all_eq_true.mp hspecial c hmem
  rw [hc] at hnot
  cases hnot

namespace State

variable {s : State}

/-- Literal text at the end of the current word. -/
def append (s : State) (text : List Char) (mode : Mode) : State :=
  ⟨s.tokens, s.word ++ text.map .char, mode⟩

theorem push_append (c : Char) (text : List Char) (mode mode' : Mode) :
    (s.push (.char c) mode).append text mode' = s.append (c :: text) mode' := by
  simp [push, append]

theorem append_nil {mode : Mode} (h : s.mode = mode) :
    s.append [] mode = s := by
  subst h
  simp [append]

theorem run_cons {c : Char} {text : List Char} {t : State}
    (h : s.stepChar c = some t) :
    s.run ((c :: text).map .char) = t.run (text.map .char) := by
  change (s.stepChar c).bind _ = _
  rw [h]
  rfl

theorem inWord_plain {c : Char} (hc : isPlain c = true) (spelling : Spelling) :
    s.inWord spelling c = some (s.push (.char c) (.unquoted spelling)) := by
  have hspecial := isPlain_special hc
  simp only [List.mem_append, List.mem_cons, List.not_mem_nil, or_false,
    not_or] at hspecial
  obtain ⟨⟨-, hactive⟩, hsingle, hdouble, hescape⟩ := hspecial
  rw [inWord, if_neg hsingle, if_neg hdouble, if_neg hescape, if_neg hactive]

theorem apart_plain {c : Char} (hc : isPlain c = true) :
    s.apart c = some (s.push (.char c) (.unquoted .literal)) := by
  have hspecial := isPlain_special hc
  simp only [List.mem_append, not_or] at hspecial
  obtain ⟨⟨⟨hblank, hoperator⟩, -⟩, -⟩ := hspecial
  rw [apart, if_neg hblank, if_neg hoperator, inWord_plain hc]

theorem stepChar_plain {c : Char} (hc : isPlain c = true)
    {spelling : Spelling} (hs : s.mode = .unquoted spelling) :
    s.stepChar c = some (s.push (.char c) (.unquoted spelling)) := by
  have hspecial := isPlain_special hc
  simp only [List.mem_append, not_or] at hspecial
  obtain ⟨⟨⟨hblank, hoperator⟩, -⟩, -⟩ := hspecial
  have hredirect : ¬(c = '<' ∨ c = '>') := by
    rintro (rfl | rfl)
    · exact hoperator (by decide)
    · exact hoperator (by decide)
  simp only [stepChar, hs]
  rw [if_neg hredirect, if_neg (not_or.mpr ⟨hblank, hoperator⟩),
    inWord_plain hc]

theorem run_unquoted {text : List Char} (htext : ∀ c ∈ text, isPlain c = true)
    {spelling : Spelling} (hs : s.mode = .unquoted spelling) :
    s.run (text.map .char) = some (s.append text (.unquoted spelling)) := by
  induction text generalizing s with
  | nil => rw [append_nil hs]; rfl
  | cons c text ih =>
      rw [List.forall_mem_cons] at htext
      rw [run_cons (stepChar_plain htext.1 hs), ih htext.2 rfl, push_append]

theorem run_between {text : List Char} (htext : ∀ c ∈ text, isPlain c = true)
    (hne : text ≠ []) (hs : s.mode = .between) :
    s.run (text.map .char) = some (s.append text (.unquoted .literal)) := by
  rcases text with _ | ⟨c, text⟩
  · exact absurd rfl hne
  · rw [List.forall_mem_cons] at htext
    have hstep : s.stepChar c =
        some (s.push (.char c) (.unquoted .literal)) := by
      simp only [stepChar, hs]
      exact apart_plain htext.1
    rw [run_cons hstep, run_unquoted htext.2 rfl, push_append]

theorem stepChar_single {c : Char} (hc : c ≠ '\'') (hs : s.mode = .single) :
    s.stepChar c = some (s.push (.char c) .single) := by
  simp only [stepChar, hs]
  rw [if_neg hc]

theorem run_single {text : List Char} (htext : '\'' ∉ text)
    (hs : s.mode = .single) :
    s.run (text.map .char) = some (s.append text .single) := by
  induction text generalizing s with
  | nil => rw [append_nil hs]; rfl
  | cons c text ih =>
      rw [List.mem_cons, not_or] at htext
      rw [run_cons (stepChar_single (Ne.symm htext.1) hs), ih htext.2 rfl,
        push_append]

/-! ## Quoted texts -/

/-- A single quote is written between double quotes, outside the single
ones. -/
theorem run_quoteChar (hs : s.mode = .single) :
    s.run ("'\"'\"'".toList.map .char) =
      some (s.push (.char '\'') .single) := by
  rcases s with ⟨tokens, word, mode⟩
  obtain rfl : mode = .single := hs
  rfl

theorem run_quoteBody {text : List Char} (hs : s.mode = .single) :
    s.run ((text.flatMap fun c =>
      if c = '\'' then "'\"'\"'".toList else [c]).map .char) =
        some (s.append text .single) := by
  induction text generalizing s with
  | nil => rw [append_nil hs]; rfl
  | cons c text ih =>
      rw [List.flatMap_cons, List.map_append, run_append]
      have hc : s.run ((if c = '\'' then "'\"'\"'".toList else [c]).map .char) =
          some (s.push (.char c) .single) := by
        split
        next heq => rw [heq, run_quoteChar hs]
        next hne =>
          have hrun : s.run ([c].map .char) =
              (s.push (.char c) .single).run ([].map .char) :=
            run_cons (stepChar_single hne hs)
          exact hrun
      rw [hc, Option.bind_some, ih rfl, push_append]

/-- Where a quoted text may stand. -/
def AtWord (s : State) : Prop :=
  s.mode = .between ∨ ∃ spelling, s.mode = .unquoted spelling

theorem stepChar_quote (hs : s.AtWord) :
    s.stepChar '\'' = some { s with mode := .single } := by
  rcases hs with hs | ⟨spelling, hs⟩
  · simp only [stepChar, hs]
    rfl
  · simp only [stepChar, hs]
    rfl

/-- A quoted text becomes part of the current word, or a word of its own. -/
theorem run_quote (text : List Char) (hs : s.AtWord) :
    ∃ spelling, s.run ((quote text).map .char) =
      some (s.append text (.unquoted spelling)) := by
  rw [quote]
  split
  next hnil =>
    refine ⟨.quoted, ?_⟩
    have hopen : s.run (['\'', '\''].map .char) =
        ({ s with mode := .single } : State).run (['\''].map .char) :=
      run_cons (stepChar_quote hs)
    rw [hnil]
    refine hopen.trans ?_
    simp [run, step, stepChar, append]
  next hne =>
    split
    next hall =>
      have hplain : ∀ c ∈ text, isPlain c = true := List.all_eq_true.mp hall
      rcases hs with hs | ⟨spelling, hs⟩
      · exact ⟨_, run_between hplain hne hs⟩
      · exact ⟨_, run_unquoted hplain hs⟩
    next =>
      refine ⟨.quoted, ?_⟩
      rw [List.cons_append, run_cons (stepChar_quote hs), List.map_append,
        run_append, run_quoteBody rfl]
      simp [run, step, stepChar, append]

end State

end Shell
