import RemoteCall.Number.Shortest

/-!
# The text of a double

A double is written with its shortest digits, positionally while its first digit stands at most sixteen places before
and at most four places after the point, and with an exponent of at least two digits otherwise. A positional text always
has a fractional part.
-/

namespace RemoteCall

namespace Decimal

/-- The digits without trailing zeros. -/
def digits (x : Decimal) : List Char :=
  ((Nat.toDigits 10 x.coefficient).reverse.dropWhile (· == '0')).reverse

/-- Where the point stands, counted from before the first digit. -/
def point (x : Decimal) : Int := (Nat.toDigits 10 x.coefficient).length + x.power

def positionalText (digits : List Char) (point : Int) : List Char :=
  let zeros (n : Int) := List.replicate n.toNat '0'
  if point ≤ 0 then '0' :: '.' :: zeros (-point) ++ digits
  else if digits.length ≤ point then digits ++ zeros (point - digits.length) ++ ['.', '0']
  else digits.take point.toNat ++ '.' :: digits.drop point.toNat

def exponentText (digits : List Char) (exponent : Int) : List Char :=
  let mantissa := match digits with
    | [d] => [d]
    | d :: rest => d :: '.' :: rest
    | [] => []
  let size := Nat.toDigits 10 exponent.natAbs
  let padded := if size.length < 2 then '0' :: size else size
  mantissa ++ 'e' :: (if exponent < 0 then '-' else '+') :: padded

/-- Positional from `0.0001` up to sixteen digits before the point. -/
def text (x : Decimal) : List Char :=
  if -4 < x.point ∧ x.point ≤ 16 then positionalText x.digits x.point
  else exponentText x.digits (x.point - 1)

end Decimal

namespace Binary64

/-- The text of a double, with the given words for what is no number. -/
def textWith (nanText infinityText : String) : Binary64 → String
  | nan => nanText
  | infinite negative => (if negative then "-" else "") ++ infinityText
  | finite negative significand exponent =>
    let magnitude :=
      if significand = 0 then ['0', '.', '0'] else (shortest significand exponent).text
    String.ofList (if negative then '-' :: magnitude else magnitude)

def toText : Binary64 → String := textWith "nan" "inf"

end Binary64

end RemoteCall
