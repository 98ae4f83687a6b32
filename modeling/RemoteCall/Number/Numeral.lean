import RemoteCall.Number.Text
import RemoteCall.Text.Blank
import RemoteCall.Text.Digit

/-!
# Reading numerals

Numerals in free text: blanks around them, digits of any script, and single underscores between digits are allowed. A
decimal numeral is read to the nearest double; an integer numeral exactly, unless it has too many digits.
-/

namespace RemoteCall

/-- The natural that a list of digits `0` to `9` denotes. -/
def digitsValue (ds : List Char) : Nat := ds.foldl (fun n c => 10 * n + (c.toNat - 48)) 0

/-- The double nearest to `± coefficient * 10 ^ power`. Magnitudes from `10 ^ 400` on are infinite and those below
`10 ^ (-400)` zero, whatever their digits. -/
def Binary64.ofDecimal (negative : Bool) (coefficient : Nat) (power : Int) : Binary64 :=
  if coefficient = 0 then .finite negative 0 minExponent
  else if 400 < power then .infinite negative
  else if power + decimalLength coefficient < -400 then .finite negative 0 minExponent
  else if power < 0 then ofRatio negative coefficient (Nat.pow 10 (-power).toNat)
  else ofRatio negative (coefficient * Nat.pow 10 power.toNat) 1

namespace Numeral

/-- A sign in front, whether it is a minus, and the rest. -/
def splitSign : List Char → Bool × List Char
  | '-' :: rest => (true, rest)
  | '+' :: rest => (false, rest)
  | cs => (false, cs)

/-- Optional digits, an optional point with digits, at least one digit in all: the coefficient, how many digits follow
the point, and the rest. -/
def splitMantissa (cs : List Char) : Option (Nat × Nat × List Char) :=
  let whole := cs.takeWhile Char.isDigit
  let rest := cs.dropWhile Char.isDigit
  let (fraction, rest) := match rest with
    | '.' :: r => (r.takeWhile Char.isDigit, r.dropWhile Char.isDigit)
    | r => ([], r)
  if whole.isEmpty && fraction.isEmpty then none
  else some (digitsValue (whole ++ fraction), fraction.length, rest)

/-- The exponent that makes up the whole of `cs`; an empty list is the exponent zero. -/
def wholeExponent? : List Char → Option Int
  | [] => some 0
  | c :: rest =>
    if c != 'e' && c != 'E' then none
    else
      let (negative, ds) := splitSign rest
      if ds.isEmpty || !ds.all Char.isDigit then none
      else some (if negative then -(digitsValue ds : Int) else digitsValue ds)

/-- The double that a decimal numeral without blanks and underscores denotes. -/
def decimal? (cs : List Char) : Option Binary64 :=
  let (negative, magnitude) := splitSign cs
  let word := magnitude.map Char.toLower
  if word == "nan".toList then some .nan
  else if word == "inf".toList || word == "infinity".toList then some (.infinite negative)
  else do
    let (coefficient, places, rest) ← splitMantissa magnitude
    let exponent ← wholeExponent? rest
    return .ofDecimal negative coefficient (exponent - places)

/-- Blanks become spaces and digits of any script the common ones; any other character beyond the first 128 spoils the
text from there on. -/
def fold (cs : List Char) : Option (List Char) :=
  cs.mapM fun c =>
    if c.toNat < 0x80 then some c
    else if Text.isBlank c then some ' '
    else (Text.digitValue? c).map fun d => Char.ofNat (48 + d)

/-- The list without its underscores, each of which must stand between two digits. -/
def dropUnderscores : List Char → Option (List Char) :=
  go false
where
  go (afterDigit : Bool) : List Char → Option (List Char)
    | [] => some []
    | ['_'] => none
    | '_' :: c :: rest =>
      if afterDigit && c.isDigit then (go true rest).map (c :: ·) else none
    | c :: rest => (go c.isDigit rest).map (c :: ·)

def ofText? (s : String) : Option Binary64 := do
  let folded ← fold s.toList
  decimal? (← dropUnderscores (Text.trim Text.isAsciiBlank folded))

/-! ## Integers -/

/-- Numerals with more digits than this are refused. -/
def maxDigits : Nat := 4300

inductive IntegerError where
  | malformed
  /-- The text has this many digits, more than are read. -/
  | tooLong (digits : Nat)
deriving DecidableEq, Repr

/-- The text with every character that has no place in a numeral replaced by one question mark that ends it. -/
def foldLossy : List Char → List Char
  | [] => []
  | c :: rest =>
    match fold [c] with
    | some cs => cs ++ foldLossy rest
    | none => ['?']

/-- The integer that a text denotes. The run of digits and underscores is measured before what follows it is looked
at. -/
def integer? (s : String) : Except IntegerError Int :=
  let (negative, magnitude) := splitSign ((foldLossy s.toList).dropWhile Text.isAsciiBlank)
  let inRun (c : Char) := c.isDigit || c == '_'
  match dropUnderscores (magnitude.takeWhile inRun) with
  | none => .error .malformed
  | some ds =>
    if maxDigits < ds.length then .error (.tooLong ds.length)
    else if ds.isEmpty || !(magnitude.dropWhile inRun).all Text.isAsciiBlank then .error .malformed
    else .ok (if negative then -(digitsValue ds : Int) else digitsValue ds)

end Numeral

end RemoteCall
