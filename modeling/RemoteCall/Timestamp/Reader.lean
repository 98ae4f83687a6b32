import RemoteCall.Text.Points
import RemoteCall.Timestamp.Basic

/-!
# Reading timestamps

A timestamp text is a date, any one separating character, and a time of day with an optional offset. Dates and times are
in the basic or the extended form; a date may be given by week and day of the week. Digits of the fraction beyond the
sixth are dropped. A NUL counts as the end of the text where the end is looked for.
-/

namespace RemoteCall.Timestamp

/-- The number in the next `n` digits, and the rest. -/
def digits (n : Nat) (cs : List Char) : Option (Nat × List Char) :=
  let ds := cs.take n
  if ds.length = n ∧ ds.all Char.isDigit then
    some (ds.foldl (fun v c => 10 * v + (c.toNat - 48)) 0, cs.drop n)
  else none

/-- The next character, or NUL at the end. -/
def next (cs : List Char) : Char := cs.headD '\x00'

def atEnd (cs : List Char) : Bool := next cs == '\x00'

/-! ## Dates -/

/-- Whether a year has a week 53: it starts on a Thursday, or on a Wednesday and is a leap year. -/
def hasWeek53 (year : Nat) : Bool :=
  let first := weekday (dayNumber year 1 1)
  first == 3 || (first == 2 && isLeap year)

/-- The number of the Monday of the first week, the one that holds the first Thursday. -/
def firstMonday (year : Nat) : Int :=
  let first := dayNumber year 1 1
  let before := weekday first
  if before > 3 then (first : Int) - before + 7 else (first : Int) - before

/-- The month and day on which the `n`-th day of a year falls, counted from zero. -/
def monthAndDay (year n : Nat) : Nat × Nat :=
  go 12 1 n
where
  go : Nat → Nat → Nat → Nat × Nat
    | 0, month, n => (month, n + 1)
    | fuel + 1, month, n =>
      if n < daysInMonth year month then (month, n + 1) else go fuel (month + 1) (n - daysInMonth year month)

/-- The date of a week and a day of the week. The weeks of year zero lie before every month, so they get month zero. -/
def ofWeek (year week day : Nat) : Option (Nat × Nat × Nat) :=
  if week = 0 ∨ 53 < week ∨ (week = 53 ∧ !hasWeek53 year) ∨ day = 0 ∨ 7 < day then none
  else if year = 0 then some (1, 0, 1)
  else
    let number := (firstMonday year + ((week - 1) * 7 + (day - 1) : Nat)).toNat
    let year := if number ≤ daysBeforeYear year then year - 1
      else if daysBeforeYear (year + 1) < number then year + 1 else year
    let (month, day) := monthAndDay year (number - daysBeforeYear year - 1)
    some (year, month, day)

/-- The date in the first `size` characters, which it must fill. -/
def readDate (cs : List Char) (size : Nat) : Option (Nat × Nat × Nat) := do
  let (year, rest) ← digits 4 cs
  let extended := next rest == '-'
  let rest := if extended then rest.tail else rest
  if next rest == 'W' then
    let (week, rest) ← digits 2 rest.tail
    if cs.length - rest.length < size then
      if extended && next rest != '-' then none
      else
        let (day, _) ← digits 1 (if extended then rest.tail else rest)
        ofWeek year week day
    else ofWeek year week 1
  else
    let (month, rest) ← digits 2 rest
    if extended && next rest != '-' then none
    else
      let (day, rest) ← digits 2 (if extended then rest.tail else rest)
      if cs.length - rest.length = size then some (year, month, day) else none

/-- How many characters the date takes. The forms are told apart by the fifth and sixth character; for a week date
without dashes the number of digits that follow it decides whether one of them is a day. -/
def dateSize (cs : List Char) : Nat :=
  if cs.length = 7 then 7
  else
    let char (i : Nat) := next (cs.drop i)
    if char 4 == '-' then
      if char 5 == 'W' then
        if char 8 == '-' then if (char 10).isDigit then 8 else 10
        else 8
      else 10
    else if char 4 == 'W' then
      let run := 7 + ((cs.drop 7).takeWhile Char.isDigit).length
      if run < 9 then run else if run % 2 = 0 then 7 else 8
    else 8

/-! ## Times -/

/-- Hour, minute, second and microsecond, and whether the text goes on after them. -/
structure Clock where
  hour : Nat
  minute : Nat
  second : Nat
  microsecond : Nat
  goesOn : Bool

/-- The fraction of a second: up to six digits within the span, the others dropped. -/
def readFraction (span : Nat) (cs : List Char) : Option (Nat × Bool) := do
  let size := min span 6
  let (n, rest) ← digits size cs
  return (n * Nat.pow 10 (6 - size), !atEnd (rest.dropWhile Char.isDigit))

/-- A time of day that spans `span` characters of the text. Whether fields are separated is seen after the hour. -/
def readClock (cs : List Char) (span : Nat) : Option Clock := do
  let (hour, rest) ← digits 2 cs
  let separated := next rest == ':'
  if span ≤ 3 then return ⟨hour, 0, 0, 0, !atEnd rest⟩
  if next rest == '.' || next rest == ',' then
    let (us, goesOn) ← readFraction (span - 3) rest.tail
    return ⟨hour, 0, 0, us, goesOn⟩
  let (rest, span) := if separated then (rest.tail, span - 3) else (rest, span - 2)
  let (minute, rest) ← digits 2 rest
  if span ≤ 3 then return ⟨hour, minute, 0, 0, !atEnd rest⟩
  if next rest == '.' || next rest == ',' then
    let (us, goesOn) ← readFraction (span - 3) rest.tail
    return ⟨hour, minute, 0, us, goesOn⟩
  if separated && next rest != ':' then none
  let (rest, span) := if separated then (rest.tail, span - 3) else (rest, span - 2)
  let (second, rest) ← digits 2 rest
  if span ≤ 3 then return ⟨hour, minute, second, 0, !atEnd rest⟩
  let decimalMark := next rest == '.' || next rest == ','
  if separated && next rest != ':' && !decimalMark then none
  let (rest, span) := if separated || decimalMark then (rest.tail, span - 3) else (rest, span - 2)
  let (us, goesOn) ← readFraction span rest
  return ⟨hour, minute, second, us, goesOn⟩

def isOffsetMark (c : Char) : Bool := c == '+' || c == '-' || c == 'Z'

/-- A time of day with its offset in microseconds, if it has one. An offset of no whole second is the offset zero. -/
def readTime (cs : List Char) : Option (Clock × Option Int) := do
  let span := (cs.takeWhile (!isOffsetMark ·)).length
  let clock ← readClock cs span
  match cs.drop span with
  | [] => if clock.goesOn then none else return (clock, none)
  | 'Z' :: rest => if atEnd rest then return (clock, some 0) else none
  | mark :: rest =>
    let o ← readClock rest rest.length
    if o.goesOn then none
    else
      let seconds : Int := (o.hour * 3600 + o.minute * 60 + o.second : Nat)
      let us := if seconds = 0 then 0 else seconds * 1000000 + o.microsecond
      return (clock, some (if mark == '-' then -us else us))

/-! ## Timestamps -/

/-- A span of time in messages, by its days, seconds and microseconds that are not zero. -/
def spanText (us : Int) : String :=
  let part (name : String) (n : Int) := if n = 0 then [] else [s!"{name}={n}"]
  let parts := part "days" (us / 86400000000) ++ part "seconds" (us / 1000000 % 86400) ++
    part "microseconds" (us % 1000000)
  "datetime.timedelta(" ++ (if parts.isEmpty then "0" else ", ".intercalate parts) ++ ")"

/-- The timestamp with its fields checked: the offset first, then the date, then the time. -/
def check (t : Timestamp) : Except Fault Timestamp :=
  if 86400000000 ≤ (t.offset.getD 0).natAbs then .error (.offsetOutOfRange (spanText (t.offset.getD 0)))
  else if t.year < 1 ∨ 9999 < t.year then .error (.yearOutOfRange t.year)
  else if t.month < 1 ∨ 12 < t.month then .error (.timestampField "month" "1..12")
  else if t.day < 1 ∨ daysInMonth t.year t.month < t.day then .error .dayOutOfRange
  else if 23 < t.hour then .error (.timestampField "hour" "0..23")
  else if 59 < t.minute then .error (.timestampField "minute" "0..59")
  else if 59 < t.second then .error (.timestampField "second" "0..59")
  else .ok t

/-- The characters, each as often as it has octets in UTF-8; times are measured in octets. -/
def octetWide (cs : List Char) : List Char := cs.flatMap fun c => List.replicate c.utf8Size c

/-- The date and time that a text denotes, its fields not yet checked. -/
def parse (cs : List Char) : Option Timestamp := do
  if cs.length < 7 then none
  let size := dateSize cs
  let (year, month, day) ← readDate cs size
  match cs.drop size with
  | [] => return ⟨year, month, day, 0, 0, 0, 0, none⟩
  | _ :: time =>
    let (clock, offset) ← readTime (octetWide time)
    return ⟨year, month, day, clock.hour, clock.minute, clock.second, clock.microsecond, offset⟩

/-- The characters of a text. Half of a surrogate pair counts as a character in the first place where a separator may
stand, and nowhere else. -/
def characters? (s : String) : Option (List Char) :=
  let points := Text.points s
  let separated :=
    match [7, 8, 10].find? fun i => points[i]?.any Text.isSurrogate with
    | some i => points.set i 'T'.toNat
    | none => points
  if separated.any Text.isSurrogate then none else some (separated.map Char.ofNat)

def read (s : String) : Except Fault Timestamp :=
  match (characters? s).bind parse with
  | some t => t.check
  | none => .error (.malformedTimestamp s)

end RemoteCall.Timestamp
