import UyuniAgent.Support.PyText

/-!
# Regular expressions of Python

Patterns of `re` without groups and references, matched by backtracking: the
ends of a match are listed in the order in which the engine tries them.  The
letters and digits outside ASCII are those of a Unicode database that stays a
parameter.
-/

/-- `str.isalnum` of single characters. -/
structure UnicodeData where
  isAlnum : Char → Bool
  isAlnum_ascii : ∀ c, c.toNat < 128 → isAlnum c = c.isAlphanum

/-- `\w`. -/
def UnicodeData.isWord (unicode : UnicodeData) (c : Char) : Bool :=
  unicode.isAlnum c || c = '_'

/-- A place in a text: the character before it, and the text from it on. -/
structure TextPlace where
  before : Option Char
  rest : List Char
  deriving DecidableEq

def TextPlace.next (place : TextPlace) : List TextPlace :=
  match place.rest with
  | [] => []
  | c :: rest => [⟨some c, rest⟩]

inductive Regex
  | chars (accepts : Char → Bool)
  | boundary
  | textEnd
  | empty
  | seq (first second : Regex)
  | alt (first second : Regex)
  | star (body : Regex)

namespace Regex

/-- `\b`. -/
def atBoundary (unicode : UnicodeData) (place : TextPlace) : Bool :=
  place.before.any unicode.isWord != place.rest.head?.any unicode.isWord

/-- The ends of a greedy repetition.  A round that matches nothing ends it. -/
def rounds (step : TextPlace → List TextPlace) :
    ℕ → TextPlace → List TextPlace
  | 0, place => [place]
  | fuel + 1, place =>
      ((step place).filter (·.rest.length < place.rest.length)).flatMap
        (rounds step fuel) ++ [place]

/-- The places at which a match that begins here can end. -/
def ends (unicode : UnicodeData) : Regex → TextPlace → List TextPlace
  | .chars accepts, place =>
      place.next.filter fun after => after.before.any accepts
  | .boundary, place => if atBoundary unicode place then [place] else []
  | .textEnd, place =>
      if place.rest = [] ∨ place.rest = ['\n'] then [place] else []
  | .empty, place => [place]
  | .seq first second, place =>
      (first.ends unicode place).flatMap (second.ends unicode)
  | .alt first second, place =>
      first.ends unicode place ++ second.ends unicode place
  | .star body, place => rounds (body.ends unicode) place.rest.length place

/-- `pattern.search(text) is not None`, from a place on. -/
def searchFrom (unicode : UnicodeData) (pattern : Regex) :
    Option Char → List Char → Bool
  | before, [] => !(pattern.ends unicode ⟨before, []⟩).isEmpty
  | before, c :: rest =>
      !(pattern.ends unicode ⟨before, c :: rest⟩).isEmpty ||
        pattern.searchFrom unicode (some c) rest

def search (unicode : UnicodeData) (pattern : Regex) (text : String) : Bool :=
  pattern.searchFrom unicode none text.toList

/-! ## Patterns -/

/-- The characters that a lower-case letter stands for under `(?i)`. -/
def ignoreCase (letter c : Char) : Bool :=
  c.toLower = letter || (letter = 'i' && (c = 'ı' || c = 'İ')) ||
    (letter = 's' && c = 'ſ') || (letter = 'k' && c.toNat = 0x212a)

/-- A literal text under `(?i)`, given in lower case. -/
def lit (text : String) : Regex :=
  (text.toList.map fun letter => chars (ignoreCase letter)).foldr seq empty

def oneOf (options : List Regex) : Regex :=
  options.foldr alt (chars fun _ => false)

def sequence (parts : List Regex) : Regex :=
  parts.foldr seq empty

/-- `\s`. -/
def space : Regex := chars PyText.isSpace

/-- `\s+`. -/
def spaces : Regex := seq space (star space)

/-- `.*`. -/
def anything : Regex := star (chars (· ≠ '\n'))

end Regex
