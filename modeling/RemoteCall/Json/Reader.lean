import RemoteCall.Json.Basic
import RemoteCall.Number.Numeral
import RemoteCall.Text.Points

/-!
# Reading JSON text

A reader works on the characters that are left and returns a value with the characters after it. A problem is reported
with the number of characters left where it was found, from which the place in the text follows. Besides the standard
grammar the words `NaN`, `Infinity` and `-Infinity` are numbers, an escape for half of a surrogate pair alone stands for
that half, and an object that names a member twice keeps its first place and its last value. Lists and objects can be
nested only so deep.
-/

namespace RemoteCall.Json

inductive ReadProblem where
  | expectedValue
  | expectedName
  | expectedColon
  | expectedComma
  | extraData
  | unterminatedText
  | controlCharacter
  | badEscape
  | badUnicodeEscape
  | byteOrderMark
  /-- An integer with this many digits. -/
  | tooManyDigits (digits : Nat)
  /-- No level is left for what is read. -/
  | tooDeep (what : String)
deriving DecidableEq, Repr

/-- What is wrong, and how many characters are left from where it is wrong. -/
structure ReadError where
  problem : ReadProblem
  remaining : Nat
deriving DecidableEq, Repr

def failAt {α : Type} (problem : ReadProblem) (cs : List Char) : Except ReadError α :=
  .error ⟨problem, cs.length⟩

def isJsonBlank (c : Char) : Bool := c == ' ' || c == '\t' || c == '\n' || c == '\r'

def skipBlanks (cs : List Char) : List Char := cs.dropWhile isJsonBlank

/-! ## Texts -/

def hexDigit? (c : Char) : Option Nat :=
  if c.isDigit then some (c.toNat - 48)
  else if 'a' ≤ c && c ≤ 'f' then some (c.toNat - 87)
  else if 'A' ≤ c && c ≤ 'F' then some (c.toNat - 55)
  else none

def fourHex? (a b c d : Char) : Option Nat := do
  return (((← hexDigit? a) * 16 + (← hexDigit? b)) * 16 + (← hexDigit? c)) * 16 + (← hexDigit? d)

/-- The character that an escape of one letter stands for. -/
def shortEscape? : Char → Option Char
  | '"' => some '"'
  | '\\' => some '\\'
  | '/' => some '/'
  | 'b' => some '\x08'
  | 'f' => some '\x0c'
  | 'n' => some '\n'
  | 'r' => some '\r'
  | 't' => some '\t'
  | _ => none

/-- The code points for a list of code units, with surrogate pairs joined. -/
def joinSurrogates : List Nat → List Nat
  | [] => []
  | [n] => [n]
  | m :: n :: rest =>
    if Text.isHighSurrogate m && Text.isLowSurrogate n then
      (0x10000 + (m - 0xd800) * 0x400 + (n - 0xdc00)) :: joinSurrogates rest
    else m :: joinSurrogates (n :: rest)

/-- The code units of a text up to its closing quote. `opening` counts the characters left from the opening quote on;
the four digits of an escape must have a character after them. -/
def textUnits (opening : Nat) : List Char → Except ReadError (List Nat × List Char)
  | [] => .error ⟨.unterminatedText, opening⟩
  | '"' :: rest => .ok ([], rest)
  | '\\' :: [] => .error ⟨.unterminatedText, opening⟩
  | '\\' :: 'u' :: a :: b :: c :: d :: next :: rest => do
    match fourHex? a b c d with
    | none => failAt .badUnicodeEscape ('u' :: a :: b :: c :: d :: next :: rest)
    | some unit =>
      let (units, after) ← textUnits opening (next :: rest)
      return (unit :: units, after)
  | '\\' :: 'u' :: rest => failAt .badUnicodeEscape ('u' :: rest)
  | '\\' :: c :: rest => do
    match shortEscape? c with
    | none => failAt .badEscape ('\\' :: c :: rest)
    | some c =>
      let (units, after) ← textUnits opening rest
      return (c.toNat :: units, after)
  | c :: rest => do
    if c.toNat < 0x20 then failAt .controlCharacter (c :: rest)
    else
      let (units, after) ← textUnits opening rest
      return (c.toNat :: units, after)

/-- The text whose opening quote stands in front of `cs`. -/
def readText (cs : List Char) : Except ReadError (String × List Char) := do
  let (units, after) ← textUnits (cs.length + 1) cs
  return (Text.ofPoints (joinSurrogates units), after)

/-! ## Numbers -/

/-- A point with at least one digit after it, if it comes next. -/
def splitFraction : List Char → Option (List Char × List Char)
  | '.' :: rest =>
    let digits := rest.takeWhile Char.isDigit
    if digits.isEmpty then none else some (digits, rest.dropWhile Char.isDigit)
  | _ => none

/-- An exponent with at least one digit, if it comes next. -/
def splitExponent : List Char → Option (Int × List Char)
  | c :: rest =>
    if c == 'e' || c == 'E' then
      let (negative, rest) := Numeral.splitSign rest
      let digits := rest.takeWhile Char.isDigit
      if digits.isEmpty then none
      else some (if negative then -(digitsValue digits : Int) else digitsValue digits, rest.dropWhile Char.isDigit)
    else none
  | [] => none

/-- The digits before the point: a zero alone, or digits that start with no zero. -/
def splitWhole : List Char → Option (List Char × List Char)
  | '0' :: rest => some (['0'], rest)
  | c :: rest =>
    if c.isDigit then some (c :: rest.takeWhile Char.isDigit, rest.dropWhile Char.isDigit) else none
  | [] => none

/-- A number literal: an integer, or a double if it has a fraction or an exponent. -/
def readNumber (cs : List Char) : Except ReadError (Number × List Char) := do
  let (negative, magnitude) := match cs with
    | '-' :: rest => (true, rest)
    | _ => (false, cs)
  match splitWhole magnitude with
  | none => failAt .expectedValue cs
  | some (whole, rest) =>
    let fraction := splitFraction rest
    let rest := (fraction.map Prod.snd).getD rest
    let exponent := splitExponent rest
    let rest := (exponent.map Prod.snd).getD rest
    if fraction.isNone && exponent.isNone then
      if Numeral.maxDigits < whole.length then failAt (.tooManyDigits whole.length) cs
      else return (.integer (if negative then -(digitsValue whole : Int) else digitsValue whole), rest)
    else
      let places := (fraction.map Prod.fst).getD []
      let power := (exponent.map Prod.fst).getD 0 - places.length
      return (.double (.ofDecimal negative (digitsValue (whole ++ places)) power), rest)

/-! ## Values -/

def words : List (List Char × Json) := [
  ("null".toList, null), ("true".toList, bool true), ("false".toList, bool false), ("NaN".toList, double .nan),
  ("Infinity".toList, double (.infinite false)), ("-Infinity".toList, double (.infinite true))]

/-- A word or a number. The words that are numbers take a level of their own. -/
def readScalar (levels : Nat) (cs : List Char) : Except ReadError (Json × List Char) :=
  match words.find? fun w => w.1.isPrefixOf cs with
  | some (word, v) =>
    match levels, v with
    | 0, number _ => failAt (.tooDeep "calling a Python object") cs
    | _, v => .ok (v, cs.drop word.length)
  | none => do
    let (n, rest) ← readNumber cs
    return (number n, rest)

mutual
/-- A value, with the levels that are left for it. The first argument bounds the number of steps. -/
def readValue : Nat → (levels : Nat) → List Char → Except ReadError (Json × List Char)
  | 0, _, cs => failAt .expectedValue cs
  | steps + 1, levels, cs =>
    match cs with
    | '"' :: rest => do
      let (s, rest) ← readText rest
      return (string s, rest)
    | '{' :: rest =>
      match levels with
      | 0 => failAt (.tooDeep "decoding a JSON object from a unicode string") cs
      | levels + 1 =>
        match skipBlanks rest with
        | '}' :: rest => .ok (object [], rest)
        | rest => readMembers steps levels [] rest
    | '[' :: rest =>
      match levels with
      | 0 => failAt (.tooDeep "decoding a JSON array from a unicode string") cs
      | levels + 1 =>
        match skipBlanks rest with
        | ']' :: rest => .ok (list [], rest)
        | rest => readItems steps levels [] rest
    | cs => readScalar levels cs

/-- The members of an object from a name on, after those already read. -/
def readMembers : Nat → (levels : Nat) → List (String × Json) → List Char → Except ReadError (Json × List Char)
  | 0, _, _, cs => failAt .expectedName cs
  | steps + 1, levels, done, cs =>
    match cs with
    | '"' :: rest => do
      let (name, rest) ← readText rest
      match skipBlanks rest with
      | ':' :: rest => do
        let (v, rest) ← readValue steps levels (skipBlanks rest)
        let done := Ordered.insert name v done
        match skipBlanks rest with
        | '}' :: rest => return (object done, rest)
        | ',' :: rest => readMembers steps levels done (skipBlanks rest)
        | rest => failAt .expectedComma rest
      | rest => failAt .expectedColon rest
    | cs => failAt .expectedName cs

/-- The items of a list from a value on, after those already read, the last one first. -/
def readItems : Nat → (levels : Nat) → List Json → List Char → Except ReadError (Json × List Char)
  | 0, _, _, cs => failAt .expectedValue cs
  | steps + 1, levels, done, cs => do
    let (v, rest) ← readValue steps levels cs
    match skipBlanks rest with
    | ']' :: rest => return (list (v :: done).reverse, rest)
    | ',' :: rest => readItems steps levels (v :: done) (skipBlanks rest)
    | rest => failAt .expectedComma rest
end

/-- The value of a whole document. Each step of the reader but those into a list takes a character, so twice the length
of the text is enough for all of them. -/
def readChars (levels : Nat) (cs : List Char) : Except ReadError Json :=
  match cs with
  | '\ufeff' :: _ => failAt .byteOrderMark cs
  | _ => do
    let (v, rest) ← readValue (2 * cs.length + 2) levels (skipBlanks cs)
    match skipBlanks rest with
    | [] => return v
    | rest => failAt .extraData rest

/-- The levels that a reader has that is called by itself. -/
def usualLevels : Nat := 995

def read (s : String) : Except ReadError Json := readChars usualLevels (Text.chars s)

/-! ## Messages -/

def ReadProblem.text : ReadProblem → String
  | expectedValue => "Expecting value"
  | expectedName => "Expecting property name enclosed in double quotes"
  | expectedColon => "Expecting ':' delimiter"
  | expectedComma => "Expecting ',' delimiter"
  | extraData => "Extra data"
  | unterminatedText => "Unterminated string starting at"
  | controlCharacter => "Invalid control character at"
  | badEscape => "Invalid \\escape"
  | badUnicodeEscape => "Invalid \\uXXXX escape"
  | byteOrderMark => "Unexpected UTF-8 BOM (decode using utf-8-sig)"
  | tooManyDigits digits =>
    s!"Exceeds the limit ({Numeral.maxDigits} digits) for integer string conversion: value has {digits} digits; " ++
      "use sys.set_int_max_str_digits() to increase the limit"
  | tooDeep what => "maximum recursion depth exceeded while " ++ what

/-- Whether the text breaks the grammar; an integer that is too long and one level too many do not. -/
def ReadProblem.isSyntactic : ReadProblem → Bool
  | tooManyDigits _ | tooDeep _ => false
  | _ => true

/-- The problem with its line, its column and its position in the document. -/
def ReadError.message (document : List Char) (e : ReadError) : String :=
  if e.problem.isSyntactic then
    let before := document.take (document.length - e.remaining)
    let line := before.count '\n' + 1
    let column := (before.reverse.takeWhile (· != '\n')).length + 1
    s!"{e.problem.text}: line {line} column {column} (char {before.length})"
  else e.problem.text

end RemoteCall.Json
