import RemoteCall.Duration
import RemoteCall.Number.Numeral

/-!
# Numbers from JSON values

Lenient conversions: a truth value counts as one or zero, a text is read as a numeral, and a double loses its fraction
when an integer is wanted.
-/

namespace RemoteCall.Json

def toDouble (v : Json) : Except Fault Binary64 :=
  match v with
  | bool b => .ok (.ofInt (if b then 1 else 0))
  | number (.double x) => .ok x
  | number (.integer i) =>
    match Binary64.ofInt i with
    | .infinite _ => .error .integerTooLargeForDouble
    | x => .ok x
  | string s =>
    match Numeral.ofText? s with
    | some x => .ok x
    | none => .error (.malformedDouble s)
  | _ => .error (.notReadableAsDouble v.kindName)

def toInteger (v : Json) : Except Fault Int :=
  match v with
  | bool b => .ok (if b then 1 else 0)
  | number (.integer i) => .ok i
  | number (.double .nan) => .error .integerFromNaN
  | number (.double (.infinite _)) => .error .integerFromInfinity
  | number (.double x) => .ok x.truncate
  | string s =>
    match Numeral.integer? s with
    | .ok i => .ok i
    | .error .malformed => .error (.malformedInteger s)
    | .error (.tooLong digits) => .error (.tooManyDigits Numeral.maxDigits digits)
  | _ => .error (.notReadableAsInteger v.kindName)

def toDuration (v : Json) : Except Fault Duration :=
  match v with
  | bool b => Duration.ofSeconds (.integer (if b then 1 else 0))
  | number n => Duration.ofSeconds n
  | _ => .error (.notSeconds v.kindName)

end RemoteCall.Json
