import RemoteCall.Json.Basic

/-!
# Equality of JSON values

Truth values and numbers are equal by numeric value, whatever their kind; lists entry by entry; objects name by name, in
any order. A NaN is equal to itself.
-/

namespace RemoteCall.Json

/-- The number that a value counts as in comparisons. -/
def numeric? : Json → Option Number
  | bool b => some (.integer (if b then 1 else 0))
  | number n => some n
  | _ => none

/-- Numeric equality, in which a NaN equals a NaN. -/
def sameNumber : Number → Number → Bool
  | .double .nan, .double .nan => true
  | m, n => m.numEq n

mutual
def same : Json → Json → Bool
  | null, null => true
  | string s, string t => s == t
  | list xs, list ys => sameItems xs ys
  | object xs, object ys => xs.length == ys.length && sameMembers xs ys
  | v, w =>
    match v.numeric?, w.numeric? with
    | some m, some n => sameNumber m n
    | _, _ => false

def sameItems : List Json → List Json → Bool
  | [], [] => true
  | x :: xs, y :: ys => same x y && sameItems xs ys
  | _, _ => false

/-- Whether every member of the first list has an equal one in the second. -/
def sameMembers : List (String × Json) → List (String × Json) → Bool
  | [], _ => true
  | (name, x) :: xs, ys =>
    (match Ordered.get? ys name with
      | some y => same x y
      | none => false) && sameMembers xs ys
end

end RemoteCall.Json
