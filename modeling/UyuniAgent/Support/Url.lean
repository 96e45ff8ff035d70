import Mathlib.Data.List.DropRight
import UyuniAgent.Support.PyValue

/-!
# Host names of URLs

`urlparse(url).hostname`.  What lies outside ASCII, and the rules for a host in
brackets, are those of the library that runs the program.
-/

/-- The methods of `str` on all of Unicode, and the hosts that `urlsplit`
turns away: an address in brackets that is none, and a character that becomes
a delimiter under NFKC. -/
structure UnicodeText where
  lower : String → String
  lower_ascii : ∀ text : String, (∀ c ∈ text.toList, c.toNat < 128) →
    lower text = PyText.lower text
  isDigit : Char → Bool
  isDigit_ascii : ∀ c : Char, c.toNat < 128 → isDigit c = c.isDigit
  allowsNetloc : List Char → Bool
  allowsNetloc_ascii : ∀ netloc : List Char, (∀ c ∈ netloc, c.toNat < 128) →
    '[' ∉ netloc → allowsNetloc netloc = true

namespace UnicodeText

/-- Letters, digits and hosts of ASCII only. -/
def ascii : UnicodeText where
  lower := PyText.lower
  lower_ascii _ _ := rfl
  isDigit := Char.isDigit
  isDigit_ascii _ _ := rfl
  allowsNetloc _ := true
  allowsNetloc_ascii _ _ _ := rfl

end UnicodeText

namespace Url

/-- The text that `urlsplit` reads: no control characters or blanks in front,
and no tabs and line breaks anywhere. -/
def clean (url : List Char) : List Char :=
  (url.dropWhile fun c => c.toNat ≤ 32).filter fun c =>
    c ≠ '\t' ∧ c ≠ '\r' ∧ c ≠ '\n'

def isSchemeChar (c : Char) : Bool :=
  c.isAlphanum || c ∈ ['+', '-', '.']

/-- What follows the scheme, if there is one. -/
def afterScheme (url : List Char) : List Char :=
  let scheme := url.takeWhile (· ≠ ':')
  match url.dropWhile (· ≠ ':') with
  | [] => url
  | _ :: rest =>
      if scheme.head?.any Char.isAlpha && scheme.all isSchemeChar then rest
      else url

def netloc (url : List Char) : List Char :=
  match afterScheme (clean url) with
  | '/' :: '/' :: rest => rest.takeWhile fun c => c ∉ ['/', '?', '#']
  | _ => []

/-- `SplitResult.hostname`; the zone of an address keeps its letters. -/
def hostOf (unicode : UnicodeText) (netloc : List Char) : Option String :=
  let hostinfo := netloc.rtakeWhile (· ≠ '@')
  let host :=
    match hostinfo.dropWhile (· ≠ '[') with
    | [] => hostinfo.takeWhile (· ≠ ':')
    | _ :: bracketed => bracketed.takeWhile (· ≠ ']')
  if host = [] then none
  else
    some (unicode.lower (String.ofList (host.takeWhile (· ≠ '%'))) ++
      String.ofList (host.dropWhile (· ≠ '%')))

/-- `urlparse(url).hostname`. -/
def hostname (unicode : UnicodeText) (url : String) :
    Except PyException (Option String) :=
  let netloc := netloc url.toList
  if ('[' ∈ netloc ↔ ']' ∈ netloc) ∧ unicode.allowsNetloc netloc then
    .ok (hostOf unicode netloc)
  else .error .valueError

end Url
