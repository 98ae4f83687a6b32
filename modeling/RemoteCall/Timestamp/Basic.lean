import RemoteCall.Duration

/-!
# Timestamps

A timestamp is a date and a time of day in the proleptic Gregorian calendar, years 1 to 9999, with or without an offset
from universal time. Two timestamps with offsets are the same when they are the same instant; one with an offset is
never the same as one without.
-/

namespace RemoteCall

structure Timestamp where
  year : Nat
  month : Nat
  day : Nat
  hour : Nat
  minute : Nat
  second : Nat
  microsecond : Nat
  /-- Microseconds ahead of universal time. -/
  offset : Option Int
deriving DecidableEq, Repr

namespace Timestamp

/-! ## The calendar -/

def isLeap (year : Nat) : Bool := year % 4 == 0 && (year % 100 != 0 || year % 400 == 0)

def daysInMonth (year month : Nat) : Nat :=
  if month = 2 then if isLeap year then 29 else 28
  else if month = 4 ∨ month = 6 ∨ month = 9 ∨ month = 11 then 30
  else 31

/-- The days of the months before `month`. -/
def daysBeforeMonth (year month : Nat) : Nat :=
  (List.range' 1 (month - 1)).foldl (fun days m => days + daysInMonth year m) 0

/-- The days of the years before `year`. -/
def daysBeforeYear (year : Nat) : Nat :=
  let y := year - 1
  y * 365 + y / 4 - y / 100 + y / 400

/-- The number of a day, where the first day of year 1 is day 1. -/
def dayNumber (year month day : Nat) : Nat := daysBeforeYear year + daysBeforeMonth year month + day

/-- The day of the week from Monday, which is zero. -/
def weekday (number : Nat) : Nat := (number + 6) % 7

/-! ## Instants -/

/-- Microseconds of the date and the time of day, offset aside. -/
def wallMicroseconds (t : Timestamp) : Int :=
  (((dayNumber t.year t.month t.day * 24 + t.hour) * 60 + t.minute) * 60 + t.second) * 1000000 + t.microsecond

def same (t u : Timestamp) : Bool :=
  match t.offset, u.offset with
  | none, none => t == u
  | some o, some p => t.wallMicroseconds - o == u.wallMicroseconds - p
  | _, _ => false

/-! ## Text -/

/-- A natural with zeros in front. -/
def padded (width n : Nat) : String :=
  let ds := Nat.toDigits 10 n
  String.ofList (List.replicate (width - ds.length) '0' ++ ds)

/-- Hours and minutes, and seconds or microseconds where they are not zero. -/
def offsetText (offset : Int) : String :=
  let us := offset.natAbs
  let seconds := us / 1000000
  let sign := if offset < 0 then "-" else "+"
  let rest :=
    if us % 1000000 ≠ 0 then ":" ++ padded 2 (seconds % 60) ++ "." ++ padded 6 (us % 1000000)
    else if seconds % 60 ≠ 0 then ":" ++ padded 2 (seconds % 60)
    else ""
  sign ++ padded 2 (seconds / 3600) ++ ":" ++ padded 2 (seconds / 60 % 60) ++ rest

/-- The extended form, with microseconds only where there are any. -/
def toText (t : Timestamp) : String :=
  let date := padded 4 t.year ++ "-" ++ padded 2 t.month ++ "-" ++ padded 2 t.day
  let time := padded 2 t.hour ++ ":" ++ padded 2 t.minute ++ ":" ++ padded 2 t.second
  let fraction := if t.microsecond = 0 then "" else "." ++ padded 6 t.microsecond
  date ++ "T" ++ time ++ fraction ++ (t.offset.map offsetText).getD ""

end Timestamp

end RemoteCall
