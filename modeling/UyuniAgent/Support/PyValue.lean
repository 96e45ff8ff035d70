import Mathlib.Data.Rat.Floor
import UyuniAgent.Support.Decimal
import UyuniAgent.Support.PyText
import UyuniAgent.Support.Raising

/-!
# Values of Python, and JSON

The values that `json.loads` returns, the conversions `int` and `str`, and the
reader itself as a machine over the tokens of a text with a stack of unfinished
containers.  A lone surrogate is read as the replacement character, and zero
has no sign.
-/

/-! ## Floating-point numbers -/

inductive PyFloat
  | finite (value : ℚ)
  | infinite (negative : Bool)
  | nan
  deriving DecidableEq

namespace Binary64

/-- The exponent `e` with `2 ^ e ≤ q < 2 ^ (e + 1)`, for a positive `q`. -/
def exponent (q : ℚ) : ℤ :=
  let e : ℤ := (q.num.natAbs.log2 : ℤ) - q.den.log2
  if (2 : ℚ) ^ e ≤ q then e else e - 1

/-- The nearest number with the precision of a double, the even one on a
tie. -/
def nearest (q : ℚ) : ℚ :=
  if q = 0 then 0
  else
    let ulp : ℚ := 2 ^ max (exponent |q| - 52) (-1074)
    ulp * Decimal.roundHalfEven (q / ulp)

def round (q : ℚ) : PyFloat :=
  if 2 ^ 1024 ≤ |nearest q| then .infinite (q < 0) else .finite (nearest q)

/-- The integers from here on round to `2 ^ 1024`, which is no double. -/
def overflowBound : ℕ := 2 ^ 1024 - 2 ^ 970

end Binary64

/-! ## Values -/

inductive PyValue
  | none
  | bool (value : Bool)
  | int (value : ℤ)
  | float (value : PyFloat)
  | str (text : String)
  | list (items : List PyValue)
  | dict (members : List (String × PyValue))

/-- The exceptions that the modelled operations of Python raise. -/
inductive PyException
  | keyError
  | typeError
  | valueError
  | overflowError
  | recursionError
  | indexError
  | attributeError
  deriving DecidableEq, Repr

/-- What depends on the interpreter: how deep JSON may be nested, and the text
of a float or a container. -/
structure Interpreter where
  recursionLimit : ℕ
  repr : PyValue → String

namespace PyValue

/-- `type(value).__name__`. -/
def typeName : PyValue → String
  | .none => "NoneType"
  | .bool _ => "bool"
  | .int _ => "int"
  | .float _ => "float"
  | .str _ => "str"
  | .list _ => "list"
  | .dict _ => "dict"

/-- `bool(value)`. -/
def truthy : PyValue → Bool
  | .none => false
  | .bool value => value
  | .int value => value ≠ 0
  | .float value => value ≠ .finite 0
  | .str text => text ≠ ""
  | .list items => !items.isEmpty
  | .dict members => !members.isEmpty

/-- `str(value)`. -/
def toStr (py : Interpreter) : PyValue → String
  | .none => "None"
  | .bool true => "True"
  | .bool false => "False"
  | .int value => toString value
  | .str text => text
  | value => py.repr value

/-- A rational without its fractional part. -/
def truncate (q : ℚ) : ℤ :=
  if q < 0 then ⌈q⌉ else ⌊q⌋

/-- `int(value)`. -/
def toInt : PyValue → Except PyException ℤ
  | .none => .error .typeError
  | .bool value => .ok (if value then 1 else 0)
  | .int value => .ok value
  | .float (.finite value) => .ok (truncate value)
  | .float (.infinite _) => .error .overflowError
  | .float .nan => .error .valueError
  | .str text =>
      match PyText.toInt? text with
      | some value => .ok value
      | Option.none => .error .valueError
  | .list _ => .error .typeError
  | .dict _ => .error .typeError

/-- What a conversion to a number raises. -/
def IsConversionError (e : PyException) : Prop :=
  e = .typeError ∨ e = .valueError ∨ e = .overflowError

theorem toInt_raises (value : PyValue) :
    Raising.RaisesOnly IsConversionError value.toInt := by
  simp only [toInt]
  split
  all_goals try split
  all_goals first
    | exact Raising.RaisesOnly.ok _
    | exact Raising.RaisesOnly.error (Or.inl rfl)
    | exact Raising.RaisesOnly.error (Or.inr (Or.inl rfl))
    | exact Raising.RaisesOnly.error (Or.inr (Or.inr rfl))

/-- Only of an infinite float does `int` raise `OverflowError`. -/
theorem toInt_eq_overflowError_iff {value : PyValue} :
    value.toInt = .error .overflowError ↔
      ∃ negative, value = .float (.infinite negative) := by
  rcases value with _ | flag | n | number | text | items | members
  case float =>
    rcases number with _ | _ | _
    all_goals simp [toInt]
  case str =>
    rcases hread : PyText.toInt? text with _ | n
    · simp [toInt, hread]
    · simp [toInt, hread]
  all_goals simp [toInt]

/-- `float(n)` of an integer. -/
def floatOfInt (n : ℤ) : Except PyException ℚ :=
  if n.natAbs < Binary64.overflowBound then .ok (Binary64.nearest n)
  else .error .overflowError

/-- `members[key] = value`: a key that is there keeps its place. -/
def setMember (key : String) (value : PyValue) :
    List (String × PyValue) → List (String × PyValue)
  | [] => [(key, value)]
  | (other, old) :: rest =>
      if other = key then (key, value) :: rest
      else (other, old) :: setMember key value rest

/-- `members[key]`. -/
def item (members : List (String × PyValue)) (key : String) :
    Except PyException PyValue :=
  match members.lookup key with
  | some value => .ok value
  | Option.none => .error .keyError

theorem item_raises (members : List (String × PyValue)) (key : String) :
    Raising.RaisesOnly (· = .keyError) (item members key) := by
  simp only [item]
  split
  · exact Raising.RaisesOnly.ok _
  · exact Raising.RaisesOnly.error rfl

/-- `members.get(key)`. -/
def get (members : List (String × PyValue)) (key : String) : PyValue :=
  (members.lookup key).getD .none

end PyValue

/-! ## Tokens of JSON -/

inductive JsonToken
  | beginArray
  | endArray
  | beginObject
  | endObject
  | comma
  | colon
  | text (value : String)
  | scalar (value : PyValue)
  | invalid

namespace Json

open Raising

def isDigit (c : Char) : Bool :=
  '0' ≤ c && c ≤ '9'

def natOf (digits : List Char) : ℕ :=
  digits.foldl (fun value digit => 10 * value + (digit.toNat - '0'.toNat)) 0

/-- The fraction of a number literal and what follows it. -/
def fraction : List Char → Option (List Char × List Char)
  | '.' :: rest =>
      if (rest.takeWhile isDigit).isEmpty then none
      else some (rest.takeWhile isDigit, rest.dropWhile isDigit)
  | rest => some ([], rest)

/-- The exponent of a number literal, which ends the literal. -/
def exponent : List Char → Option (Option ℤ)
  | [] => some none
  | e :: rest =>
      let (negative, digits) :=
        match rest with
        | '-' :: digits => (true, digits)
        | '+' :: digits => (false, digits)
        | digits => (false, digits)
      if (e = 'e' || e = 'E') && !digits.isEmpty && digits.all isDigit then
        some (some (if negative then -natOf digits else natOf digits))
      else none

/-- A number literal.  One without fraction and exponent is an integer, which
may not have too many digits. -/
def number (word : List Char) : Option PyValue :=
  let (negative, body) :=
    match word with
    | '-' :: body => (true, body)
    | body => (false, body)
  let whole := body.takeWhile isDigit
  if whole.isEmpty || (whole.head? = some '0' && whole.length ≠ 1) then none
  else
    match fraction (body.dropWhile isDigit) with
    | none => none
    | some (digits, rest) =>
        match exponent rest with
        | none => none
        | some power =>
            let sign : ℤ := if negative then -1 else 1
            if digits.isEmpty ∧ power.isNone then
              if whole.length ≤ PyText.maxIntDigits then
                some (.int (sign * natOf whole))
              else none
            else
              let value : ℚ := sign * natOf (whole ++ digits) *
                10 ^ (power.getD 0 - digits.length)
              some (.float (Binary64.round value))

/-- The token of a word without punctuation. -/
def wordToken (word : List Char) : JsonToken :=
  if word = "null".toList then .scalar .none
  else if word = "true".toList then .scalar (.bool true)
  else if word = "false".toList then .scalar (.bool false)
  else if word = "NaN".toList then .scalar (.float .nan)
  else if word = "Infinity".toList then .scalar (.float (.infinite false))
  else if word = "-Infinity".toList then .scalar (.float (.infinite true))
  else
    match number word with
    | some value => .scalar value
    | none => .invalid

/-- The token of a punctuation mark. -/
def punctuation? : Char → Option JsonToken
  | '[' => some .beginArray
  | ']' => some .endArray
  | '{' => some .beginObject
  | '}' => some .endObject
  | ',' => some .comma
  | ':' => some .colon
  | _ => none

def isBlank (c : Char) : Bool :=
  c = ' ' || c = '\t' || c = '\n' || c = '\r'

/-- A string from its code points, with a surrogate pair as one character. -/
def ofCodePoints : List ℕ → List Char
  | [] => []
  | high :: low :: rest =>
      if 0xd800 ≤ high ∧ high ≤ 0xdbff ∧ 0xdc00 ≤ low ∧ low ≤ 0xdfff then
        Char.ofNat (0x10000 + (high - 0xd800) * 0x400 + (low - 0xdc00)) ::
          ofCodePoints rest
      else if 0xd800 ≤ high ∧ high ≤ 0xdfff then
        Char.ofNat 0xfffd :: ofCodePoints (low :: rest)
      else Char.ofNat high :: ofCodePoints (low :: rest)
  | [last] =>
      if 0xd800 ≤ last ∧ last ≤ 0xdfff then [Char.ofNat 0xfffd]
      else [Char.ofNat last]

def escaped? : Char → Option Char
  | '"' => some '"'
  | '\\' => some '\\'
  | '/' => some '/'
  | 'b' => some (Char.ofNat 8)
  | 'f' => some (Char.ofNat 12)
  | 'n' => some '\n'
  | 'r' => some '\r'
  | 't' => some '\t'
  | _ => none

def hexDigit? (c : Char) : Option ℕ :=
  if '0' ≤ c ∧ c ≤ '9' then some (c.toNat - '0'.toNat)
  else if 'a' ≤ c ∧ c ≤ 'f' then some (c.toNat - 'a'.toNat + 10)
  else if 'A' ≤ c ∧ c ≤ 'F' then some (c.toNat - 'A'.toNat + 10)
  else none

/-- Where the scanner is; what it has read of a word or a string is kept in
reverse. -/
inductive Scan
  | between
  | word (read : List Char)
  | text (read : List ℕ)
  | escape (read : List ℕ)
  | unicode (read : List ℕ) (value missing : ℕ)

/-- The tokens of a text.  The scanner stops at the first character of a
string that cannot be read. -/
def tokensFrom : Scan → List Char → List JsonToken
  | .between, [] => []
  | .word read, [] => [wordToken read.reverse]
  | _, [] => [.invalid]
  | .between, c :: rest =>
      if isBlank c then tokensFrom .between rest
      else if c = '"' then tokensFrom (.text []) rest
      else
        match punctuation? c with
        | some token => token :: tokensFrom .between rest
        | none => tokensFrom (.word [c]) rest
  | .word read, c :: rest =>
      if isBlank c then wordToken read.reverse :: tokensFrom .between rest
      else if c = '"' then
        wordToken read.reverse :: tokensFrom (.text []) rest
      else
        match punctuation? c with
        | some token =>
            wordToken read.reverse :: token :: tokensFrom .between rest
        | none => tokensFrom (.word (c :: read)) rest
  | .text read, c :: rest =>
      if c = '"' then
        .text (String.ofList (ofCodePoints read.reverse)) ::
          tokensFrom .between rest
      else if c = '\\' then tokensFrom (.escape read) rest
      else if c.toNat < 32 then [.invalid]
      else tokensFrom (.text (c.toNat :: read)) rest
  | .escape read, c :: rest =>
      if c = 'u' then tokensFrom (.unicode read 0 4) rest
      else
        match escaped? c with
        | some char => tokensFrom (.text (char.toNat :: read)) rest
        | none => [.invalid]
  | .unicode read value missing, c :: rest =>
      match hexDigit? c with
      | some digit =>
          if missing = 1 then
            tokensFrom (.text ((16 * value + digit) :: read)) rest
          else
            tokensFrom (.unicode read (16 * value + digit) (missing - 1)) rest
      | none => [.invalid]

/-! ## The reader -/

/-- A container under way: the items of an array in reverse, or the members of
an object with the key of the next one. -/
inductive Frame
  | array (items : List PyValue)
  | object (members : List (String × PyValue)) (key : String)

/-- What the reader accepts next. -/
inductive Expected
  | value
  | firstItem
  | firstKey
  | key
  | colon
  | separator
  | nothing (value : PyValue)

structure Reader where
  stack : List Frame
  expected : Expected

def Reader.initial : Reader := ⟨[], .value⟩

/-- A value is complete. -/
def Reader.complete (value : PyValue) : List Frame → Reader
  | [] => ⟨[], .nothing value⟩
  | .array items :: stack => ⟨.array (value :: items) :: stack, .separator⟩
  | .object members key :: stack =>
      ⟨.object (PyValue.setMember key value members) "" :: stack, .separator⟩

/-- Begin a container. -/
def Reader.push (limit : ℕ) (stack : List Frame) (frame : Frame)
    (expected : Expected) : Except PyException Reader :=
  if stack.length < limit then .ok ⟨frame :: stack, expected⟩
  else .error .recursionError

/-- A token where a value must stand. -/
def Reader.readValue (limit : ℕ) (stack : List Frame) :
    JsonToken → Except PyException Reader
  | .beginArray => push limit stack (.array []) .firstItem
  | .beginObject => push limit stack (.object [] "") .firstKey
  | .text text => .ok (complete (.str text) stack)
  | .scalar value => .ok (complete value stack)
  | _ => .error .valueError

def Reader.step (limit : ℕ) (reader : Reader) (token : JsonToken) :
    Except PyException Reader :=
  match reader.expected, reader.stack, token with
  | .firstItem, .array items :: stack, .endArray =>
      .ok (complete (.list items.reverse) stack)
  | .firstItem, stack, token => readValue limit stack token
  | .value, stack, token => readValue limit stack token
  | .firstKey, .object members _ :: stack, .endObject =>
      .ok (complete (.dict members) stack)
  | .firstKey, .object members _ :: stack, .text key =>
      .ok ⟨.object members key :: stack, .colon⟩
  | .key, .object members _ :: stack, .text key =>
      .ok ⟨.object members key :: stack, .colon⟩
  | .colon, stack, .colon => .ok ⟨stack, .value⟩
  | .separator, .array items :: stack, .comma =>
      .ok ⟨.array items :: stack, .value⟩
  | .separator, .array items :: stack, .endArray =>
      .ok (complete (.list items.reverse) stack)
  | .separator, .object members key :: stack, .comma =>
      .ok ⟨.object members key :: stack, .key⟩
  | .separator, .object members _ :: stack, .endObject =>
      .ok (complete (.dict members) stack)
  | _, _, _ => .error .valueError

def Reader.finish (reader : Reader) : Except PyException PyValue :=
  match reader.expected with
  | .nothing value => .ok value
  | _ => .error .valueError

/-- `json.loads(text)`. -/
def loads (py : Interpreter) (text : String) : Except PyException PyValue :=
  (tokensFrom .between text.toList).foldlM (Reader.step py.recursionLimit)
    Reader.initial >>= Reader.finish

/-! ## What the reader raises -/

/-- `JSONDecodeError`, which is a `ValueError`, or `RecursionError`. -/
def IsReaderError (e : PyException) : Prop :=
  e = .valueError ∨ e = .recursionError

theorem Reader.push_raises (limit : ℕ) (stack : List Frame) (frame : Frame)
    (expected : Expected) :
    RaisesOnly IsReaderError (push limit stack frame expected) := by
  simp only [push]
  split
  · exact RaisesOnly.ok _
  · exact RaisesOnly.error (Or.inr rfl)

theorem Reader.readValue_raises (limit : ℕ) (stack : List Frame)
    (token : JsonToken) :
    RaisesOnly IsReaderError (readValue limit stack token) := by
  simp only [readValue]
  split
  · exact push_raises limit stack _ _
  · exact push_raises limit stack _ _
  · exact RaisesOnly.ok _
  · exact RaisesOnly.ok _
  · exact RaisesOnly.error (Or.inl rfl)

theorem Reader.step_raises (limit : ℕ) (reader : Reader) (token : JsonToken) :
    RaisesOnly IsReaderError (step limit reader token) := by
  simp only [step]
  split
  all_goals first
    | exact RaisesOnly.ok _
    | exact readValue_raises limit _ _
    | exact RaisesOnly.error (Or.inl rfl)

theorem loads_raises (py : Interpreter) (text : String) :
    RaisesOnly IsReaderError (loads py text) := by
  apply RaisesOnly.bind
  · exact RaisesOnly.foldlM (Reader.step_raises py.recursionLimit) _ _
  · intro reader _
    simp only [Reader.finish]
    split
    · exact RaisesOnly.ok _
    · exact RaisesOnly.error (Or.inl rfl)

end Json
