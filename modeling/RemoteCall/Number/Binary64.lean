import RemoteCall.Number.Rounding

/-!
# Double-precision numbers

A finite double is a sign, a significand below `2 ^ 53` and an exponent of two, kept in the one form where the
significand is at least `2 ^ 52` unless the exponent is the least one. All operations are exact on the rational
values; only `ofRatio` rounds, to the nearest double and to the even significand on a tie.
-/

namespace RemoteCall

inductive Binary64 where
  | nan
  | infinite (negative : Bool)
  /-- The number `± significand * 2 ^ exponent`. -/
  | finite (negative : Bool) (significand : Nat) (exponent : Int)
deriving DecidableEq, Repr

namespace Binary64

/-- The exponent of the smallest positive double. -/
def minExponent : Int := -1074

/-- The exponent of the largest finite double. -/
def maxExponent : Int := 971

/-! ## Values -/

/-- The exact value of a finite double; zero stands in for the others. -/
def value : Binary64 → Rat
  | finite negative significand exponent =>
    let magnitude : Rat := (significand : Rat) * 2 ^ exponent
    if negative then -magnitude else magnitude
  | _ => 0

def isNaN : Binary64 → Bool
  | nan => true
  | _ => false

def isFinite : Binary64 → Bool
  | finite .. => true
  | _ => false

/-- Holds of both zeros. -/
def isZero : Binary64 → Bool
  | finite _ significand _ => significand == 0
  | _ => false

/-- The magnitude of a finite double as a quotient of two naturals. -/
def ratio (significand : Nat) (exponent : Int) : Nat × Nat :=
  if exponent < 0 then (significand, Nat.pow 2 (-exponent).toNat) else (significand * Nat.pow 2 exponent.toNat, 1)

/-! ## Rounding -/

/-- The exponent of the greatest power of two that is at most `n / d`, for positive `n` and `d`. -/
def floorLog2 (n d : Nat) : Int :=
  let guess : Int := n.log2 - d.log2
  let reached := if guess < 0 then d ≤ n * Nat.pow 2 (-guess).toNat else d * Nat.pow 2 guess.toNat ≤ n
  if reached then guess else guess - 1

/-- The nearest integer to `n / d` in units of `2 ^ exponent`. -/
def roundScaled (n d : Nat) (exponent : Int) : Nat :=
  if exponent < 0 then roundHalfEven (n * Nat.pow 2 (-exponent).toNat) d
  else roundHalfEven n (d * Nat.pow 2 exponent.toNat)

/-- The double nearest to `± n / d`, infinite from half a unit beyond the largest finite one on. -/
def ofRatio (negative : Bool) (n d : Nat) : Binary64 :=
  if n = 0 then finite negative 0 minExponent
  else
    let exponent := max minExponent (floorLog2 n d - 52)
    let significand := roundScaled n d exponent
    if significand = Nat.pow 2 53 then
      if exponent < maxExponent then finite negative (Nat.pow 2 52) (exponent + 1) else infinite negative
    else if maxExponent < exponent then infinite negative
    else finite negative significand exponent

def zero : Binary64 := finite false 0 minExponent

def one : Binary64 := finite false (Nat.pow 2 52) (-52)

/-- The nearest double to an integer, infinite when the integer is too large. -/
def ofInt (i : Int) : Binary64 := ofRatio (i < 0) i.natAbs 1

/-! ## Order -/

/-- The numeric order: no relation holds with a NaN, and the zeros are equal. -/
def blt : Binary64 → Binary64 → Bool
  | nan, _ => false
  | _, nan => false
  | infinite n, infinite n' => n && !n'
  | infinite n, finite .. => n
  | finite .., infinite n => !n
  | x@(finite ..), y@(finite ..) => x.value < y.value

/-- Numeric equality: a NaN equals nothing, and the zeros are equal. -/
def numEq : Binary64 → Binary64 → Bool
  | infinite n, infinite n' => n == n'
  | x@(finite ..), y@(finite ..) => x.value == y.value
  | _, _ => false

def bltInt : Binary64 → Int → Bool
  | nan, _ => false
  | infinite negative, _ => negative
  | x@(finite ..), i => x.value < (i : Rat)

def eqInt : Binary64 → Int → Bool
  | x@(finite ..), i => x.value == (i : Rat)
  | _, _ => false

/-! ## Whole and fractional part -/

/-- The integer part of a finite double, toward zero. -/
def truncate : Binary64 → Int
  | finite negative significand exponent =>
    let (n, d) := ratio significand exponent
    if negative then -(n / d : Nat) else (n / d : Nat)
  | _ => 0

def isWhole : Binary64 → Bool
  | finite _ significand exponent =>
    let (n, d) := ratio significand exponent
    n % d == 0
  | _ => false

end Binary64

end RemoteCall
