import RemoteCall.Fault
import RemoteCall.Number.Rounding

/-!
# Durations

A duration is a whole number of microseconds, from -999999999 days to the last microsecond of day 999999999. A number
of seconds becomes the nearest duration; of a double the fraction is first scaled to microseconds as a double, and
only then the whole amount is rounded, a half going to the even microsecond.
-/

namespace RemoteCall

namespace Duration

def microsecondsPerDay : Int := 86400000000

def maxDays : Int := 999999999

/-- The microseconds that some duration has. -/
def Representable (us : Int) : Prop :=
  -maxDays * microsecondsPerDay ≤ us ∧ us < (maxDays + 1) * microsecondsPerDay

instance (us : Int) : Decidable (Representable us) := inferInstanceAs (Decidable (_ ∧ _))

end Duration

structure Duration where
  microseconds : Int
  representable : Duration.Representable microseconds
deriving DecidableEq

namespace Duration

instance : Repr Duration := ⟨fun d p => reprPrec d.microseconds p⟩

instance : LE Duration := ⟨fun a b => a.microseconds ≤ b.microseconds⟩

instance : LT Duration := ⟨fun a b => a.microseconds < b.microseconds⟩

instance (a b : Duration) : Decidable (a ≤ b) := inferInstanceAs (Decidable (a.microseconds ≤ b.microseconds))

instance (a b : Duration) : Decidable (a < b) := inferInstanceAs (Decidable (a.microseconds < b.microseconds))

def zero : Duration := ⟨0, by decide⟩

instance : Inhabited Duration := ⟨zero⟩

@[ext] theorem ext {a b : Duration} (h : a.microseconds = b.microseconds) : a = b := by
  cases a; cases b; cases h; rfl

theorem le_def {a b : Duration} : a ≤ b ↔ a.microseconds ≤ b.microseconds := Iff.rfl

theorem lt_def {a b : Duration} : a < b ↔ a.microseconds < b.microseconds := Iff.rfl

/-! ## From microseconds and seconds -/

/-- The days below which the count of days is no 32-bit integer. -/
def machineDays : Int := 2147483648

def ofMicroseconds (us : Int) : Except Fault Duration :=
  if h : Representable us then .ok ⟨us, h⟩
  else
    let days := us / microsecondsPerDay
    if -machineDays ≤ days ∧ days < machineDays then .error (.daysOutOfRange days)
    else .error .daysBeyondMachineInteger

/-- The integer nearest to a whole number and the magnitude of a finite double together. -/
def roundedSum (whole : Nat) : Binary64 → Nat
  | .finite _ significand exponent =>
    let r := Binary64.ratio significand exponent
    roundHalfEven (whole * r.2 + r.1) r.2
  | _ => whole

/-- The microseconds nearest to a finite number of seconds with the given magnitude. -/
def nearestMicroseconds (significand : Nat) (exponent : Int) : Nat :=
  let r := Binary64.ratio significand exponent
  roundedSum (r.1 / r.2 * 1000000) (.ofRatio false (r.1 % r.2 * 1000000) r.2)

def ofSeconds : Number → Except Fault Duration
  | .integer i => ofMicroseconds (i * 1000000)
  | .double .nan => .error .integerFromNaN
  | .double (.infinite _) => .error .integerFromInfinity
  | .double (.finite negative significand exponent) =>
    let us := nearestMicroseconds significand exponent
    ofMicroseconds (if negative then -(us : Int) else us)

/-- The duration in seconds, to the nearest double. -/
def seconds (d : Duration) : Binary64 :=
  .ofRatio (d.microseconds < 0) d.microseconds.natAbs 1000000

theorem ofMicroseconds_of_representable {us : Int} (h : Representable us) :
    ofMicroseconds us = .ok ⟨us, h⟩ := by
  simp [ofMicroseconds, h]

theorem microseconds_of_ofMicroseconds {us : Int} {d : Duration} (h : ofMicroseconds us = .ok d) :
    d.microseconds = us := by
  unfold ofMicroseconds at h
  split at h
  · cases h; rfl
  · dsimp only at h; split at h <;> cases h

end Duration

end RemoteCall
