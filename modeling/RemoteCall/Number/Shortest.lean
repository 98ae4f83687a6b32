import RemoteCall.Number.Binary64

/-!
# Shortest decimals

The decimal written for a finite double is the shortest one that rounds back to it; of several such decimals of that
length it is the one nearest to the double. A grid of decimals with a given last place holds a decimal that reads back
exactly when one of the two neighbours of the double on that grid does, so only those two are tried.
-/

namespace RemoteCall

/-- The number `coefficient * 10 ^ power`. -/
structure Decimal where
  coefficient : Nat
  power : Int
deriving DecidableEq, Repr

/-- How many decimal digits a natural has; zero has none. -/
def decimalLength (n : Nat) : Nat :=
  if n = 0 then 0 else decimalLength (n / 10) + 1

namespace Binary64

/-- The quotient `2 ^ exponent / 10 ^ power` of two naturals. -/
def gridRatio (exponent power : Int) : Nat × Nat :=
  (Nat.pow 2 exponent.toNat * Nat.pow 10 (-power).toNat, Nat.pow 2 (-exponent).toNat * Nat.pow 10 power.toNat)

/-- Whether `c * 10 ^ power` is read as the double `significand * 2 ^ exponent`: it lies within half the gap to either
neighbour, ends included when the significand is even. The gap below a power of two is half as wide. -/
def readsBack (significand : Nat) (exponent : Int) (c : Nat) (power : Int) : Bool :=
  let (a, d) := gridRatio exponent power
  let below := if significand = Nat.pow 2 52 ∧ minExponent < exponent then 1 else 2
  let lower := (4 * significand - below) * a
  let upper := (4 * significand + 2) * a
  let c := 4 * c * d
  if significand % 2 = 0 then lower ≤ c && c ≤ upper else lower < c && c < upper

/-- The neighbour of the double on the grid of multiples of `10 ^ power` that reads back, the nearer one first. -/
def onGrid (significand : Nat) (exponent power : Int) : Option Nat :=
  let (a, d) := gridRatio exponent power
  let low := significand * a / d
  let rest := significand * a % d
  let lowFirst := 2 * rest < d || (2 * rest == d && low % 2 == 0)
  (if lowFirst then [low, low + 1] else [low + 1, low]).find? (readsBack significand exponent · power)

/-- The place of the first digit: `10 ^ (p - 1) ≤ significand * 2 ^ exponent < 10 ^ p`. -/
def leadingPlace (significand : Nat) (exponent : Int) : Int :=
  let (n, d) := ratio significand exponent
  if d ≤ n then decimalLength (n / d) else 1 - decimalLength ((d - 1) / n)

/-- The shortest decimal that reads back, by trying one digit, then two, up to seventeen. -/
def shortest (significand : Nat) (exponent : Int) : Decimal :=
  let place := leadingPlace significand exponent
  let ofLength (digits : Nat) : Option Decimal :=
    (onGrid significand exponent (place - digits)).map fun c => ⟨c, place - digits⟩
  ((List.range' 1 17).findSome? ofLength).getD ⟨0, 0⟩

end Binary64

end RemoteCall
