import Mathlib.Algebra.Ring.Nat
import RemoteCall.Proofs.Text
import RemoteCall.Timestamp.Reader

/-!
# Timestamps as text and back

The text of a timestamp has fields of fixed widths, so the reader finds each field where the writer put it. A valid
timestamp is read back from its own text.
-/

namespace RemoteCall.Timestamp

/-! ## Fields of digits -/

section
variable {w n : Nat} {rest : List Char}

theorem toList_padded (w n : Nat) : (padded w n).toList =
    List.replicate (w - (Nat.toDigits 10 n).length) '0' ++ Nat.toDigits 10 n := String.toList_ofList

theorem length_padded (h : n < 10 ^ w) (hw : 0 < w) : (padded w n).toList.length = w := by
  have hl := (Nat.length_toDigits_le_iff (by decide) hw).mpr h
  rw [toList_padded, List.length_append, List.length_replicate]
  omega

theorem isDigit_of_mem_padded {c : Char} (h : c ∈ (padded w n).toList) : c.isDigit = true := by
  rw [toList_padded, List.mem_append] at h
  rcases h with h | h
  · rw [List.eq_of_mem_replicate h]
    rfl
  · exact Nat.isDigit_of_mem_toDigits (by decide) (by decide) h

theorem ofDigitChars_padded : Nat.ofDigitChars 10 (padded w n).toList 0 = n := by
  rw [toList_padded, Nat.ofDigitChars_append, Nat.ofDigitChars_replicate_zero, Nat.mul_zero,
    Nat.ofDigitChars_ten_toDigits]

theorem digits_padded (h : n < 10 ^ w) (hw : 0 < w) : digits w ((padded w n).toList ++ rest) = some (n, rest) := by
  have hl := length_padded h hw
  have hd : ∀ c ∈ (padded w n).toList, c.isDigit = true := fun _ => isDigit_of_mem_padded
  have hv : (padded w n).toList.foldl (fun v c => 10 * v + (c.toNat - 48)) 0 = n := by
    have hp := ofDigitChars_padded (w := w) (n := n)
    rw [Nat.ofDigitChars_eq_foldl] at hp
    exact hp
  simp only [digits, List.take_left' hl, List.drop_left' hl, hl, hv, true_and, List.all_eq_true]
  rw [if_pos hd]

theorem isDigit_next_padded (h : n < 10 ^ w) (hw : 0 < w) : (next ((padded w n).toList ++ rest)).isDigit = true := by
  have hl := length_padded h hw
  have hd : ∀ c ∈ (padded w n).toList, c.isDigit = true := fun _ => isDigit_of_mem_padded
  cases hp : (padded w n).toList with
  | nil => rw [hp] at hl; simp at hl; omega
  | cons c cs => exact hd c (by simp [hp])

theorem beq_of_isDigit {c d : Char} (hc : c.isDigit = true) (hd : d.isDigit = false) : (c == d) = false := by
  rw [beq_eq_false_iff_ne]
  rintro rfl
  rw [hc] at hd
  cases hd

end

/-! ## Dates -/

section
variable {year month day : Nat} {rest : List Char}

def dateChars (year month day : Nat) : List Char :=
  (padded 4 year).toList ++ '-' :: ((padded 2 month).toList ++ '-' :: (padded 2 day).toList)

theorem length_dateChars (hy : year < 10 ^ 4) (hm : month < 10 ^ 2) (hd : day < 10 ^ 2) :
    (dateChars year month day).length = 10 := by
  simp [dateChars, length_padded hy, length_padded hm, length_padded hd]

theorem dateSize_dateChars (hy : year < 10 ^ 4) (hm : month < 10 ^ 2) (hd : day < 10 ^ 2) :
    dateSize (dateChars year month day ++ rest) = 10 := by
  have hl : (dateChars year month day ++ rest).length ≠ 7 := by
    rw [List.length_append, length_dateChars hy hm hd]
    omega
  have hdash : (dateChars year month day ++ rest).drop 4 =
      '-' :: ((padded 2 month).toList ++ '-' :: ((padded 2 day).toList ++ rest)) := by
    rw [dateChars, List.append_assoc, List.drop_left' (length_padded hy (by decide))]
    simp
  have hmonth : (dateChars year month day ++ rest).drop 5 =
      (padded 2 month).toList ++ '-' :: ((padded 2 day).toList ++ rest) := by
    have h : (dateChars year month day ++ rest).drop 5 = ((dateChars year month day ++ rest).drop 4).tail :=
      List.tail_drop.symm
    rw [h, hdash]
    rfl
  have hw : (next ((dateChars year month day ++ rest).drop 5) == 'W') = false := by
    rw [hmonth]
    exact beq_of_isDigit (isDigit_next_padded hm (by decide)) (by decide)
  simp only [dateSize, if_neg hl, hw]
  rw [hdash]
  rfl

theorem readDate_dateChars (hy : year < 10 ^ 4) (hm : month < 10 ^ 2) (hd : day < 10 ^ 2) :
    readDate (dateChars year month day ++ rest) 10 = some (year, month, day) := by
  have hl := length_dateChars hy hm hd
  have hw : (next ((padded 2 month).toList ++ '-' :: ((padded 2 day).toList ++ rest)) == 'W') = false :=
    beq_of_isDigit (isDigit_next_padded hm (by decide)) (by decide)
  have hc : dateChars year month day ++ rest = (padded 4 year).toList ++
      '-' :: ((padded 2 month).toList ++ '-' :: ((padded 2 day).toList ++ rest)) := by
    simp [dateChars]
  have hlen : (dateChars year month day ++ rest).length - rest.length = 10 := by simp [hl]
  simp only [readDate]
  rw [hc, digits_padded hy (by decide)]
  have hdash (cs : List Char) : (next ('-' :: cs) == '-') = true := rfl
  simp only [Option.bind_eq_bind, Option.bind_some, hdash, if_true, List.tail_cons, hw, Bool.false_eq_true, if_false,
    digits_padded hm (by decide), Bool.true_and, bne, Bool.not_true, digits_padded hd (by decide)]
  rw [← hc, if_pos hlen]

end

/-! ## Times of day -/

section
variable {hour minute second us : Nat} {rest : List Char}

def minuteChars (hour minute : Nat) : List Char := (padded 2 hour).toList ++ ':' :: (padded 2 minute).toList

def secondChars (hour minute second : Nat) : List Char := minuteChars hour minute ++ ':' :: (padded 2 second).toList

def fractionChars (hour minute second us : Nat) : List Char :=
  secondChars hour minute second ++ '.' :: (padded 6 us).toList

theorem length_minuteChars (hh : hour < 10 ^ 2) (hm : minute < 10 ^ 2) : (minuteChars hour minute).length = 5 := by
  simp [minuteChars, length_padded hh, length_padded hm]

theorem length_secondChars (hh : hour < 10 ^ 2) (hm : minute < 10 ^ 2) (hs : second < 10 ^ 2) :
    (secondChars hour minute second).length = 8 := by
  simp [secondChars, length_minuteChars hh hm, length_padded hs]

theorem length_fractionChars (hh : hour < 10 ^ 2) (hm : minute < 10 ^ 2) (hs : second < 10 ^ 2) (hu : us < 10 ^ 6) :
    (fractionChars hour minute second us).length = 15 := by
  simp [fractionChars, length_secondChars hh hm hs, length_padded hu]

theorem readClock_minuteChars (hh : hour < 10 ^ 2) (hm : minute < 10 ^ 2) :
    readClock (minuteChars hour minute ++ rest) 5 = some ⟨hour, minute, 0, 0, !atEnd rest⟩ := by
  have hc : minuteChars hour minute ++ rest = (padded 2 hour).toList ++ ':' :: ((padded 2 minute).toList ++ rest) := by
    simp [minuteChars]
  rw [hc, readClock, digits_padded hh (by decide)]
  simp [next, digits_padded hm (by decide)]

theorem readClock_secondChars (hh : hour < 10 ^ 2) (hm : minute < 10 ^ 2) (hs : second < 10 ^ 2) :
    readClock (secondChars hour minute second ++ rest) 8 = some ⟨hour, minute, second, 0, !atEnd rest⟩ := by
  have hc : secondChars hour minute second ++ rest =
      (padded 2 hour).toList ++ ':' :: ((padded 2 minute).toList ++ ':' :: ((padded 2 second).toList ++ rest)) := by
    simp [secondChars, minuteChars]
  rw [hc, readClock, digits_padded hh (by decide)]
  simp [next, digits_padded hm (by decide), digits_padded hs (by decide)]

theorem readFraction_padded (hu : us < 10 ^ 6) (hr : (next rest).isDigit = false) :
    readFraction 6 ((padded 6 us).toList ++ rest) = some (us, !atEnd rest) := by
  have hd : rest.dropWhile Char.isDigit = rest := by
    cases rest with
    | nil => rfl
    | cons c cs => exact List.dropWhile_cons_of_neg (by simpa [next] using hr)
  simp only [readFraction, Nat.min_self, digits_padded hu (by decide), Option.bind_eq_bind, Option.bind_some, hd]
  simp

theorem readClock_fractionChars (hh : hour < 10 ^ 2) (hm : minute < 10 ^ 2) (hs : second < 10 ^ 2) (hu : us < 10 ^ 6)
    (hr : (next rest).isDigit = false) :
    readClock (fractionChars hour minute second us ++ rest) 15 = some ⟨hour, minute, second, us, !atEnd rest⟩ := by
  have hc : fractionChars hour minute second us ++ rest = (padded 2 hour).toList ++
      ':' :: ((padded 2 minute).toList ++ ':' :: ((padded 2 second).toList ++ '.' :: ((padded 6 us).toList ++ rest))) := by
    simp [fractionChars, secondChars, minuteChars]
  rw [hc, readClock, digits_padded hh (by decide)]
  simp [next, digits_padded hm (by decide), digits_padded hs (by decide), readFraction_padded hu hr]

end

/-! ## Characters of times -/

section
variable {hour minute second us : Nat} {c : Char} {cs rest : List Char}

def isTimeChar (c : Char) : Bool := c.isDigit || c == ':' || c == '.'

theorem isTimeChar_of_mem_minuteChars (h : c ∈ minuteChars hour minute) : isTimeChar c = true := by
  simp only [minuteChars, List.mem_append, List.mem_cons] at h
  rcases h with h | rfl | h
  · simp [isTimeChar, isDigit_of_mem_padded h]
  · rfl
  · simp [isTimeChar, isDigit_of_mem_padded h]

theorem isTimeChar_of_mem_secondChars (h : c ∈ secondChars hour minute second) : isTimeChar c = true := by
  simp only [secondChars, List.mem_append, List.mem_cons] at h
  rcases h with h | rfl | h
  · exact isTimeChar_of_mem_minuteChars h
  · rfl
  · simp [isTimeChar, isDigit_of_mem_padded h]

theorem isTimeChar_of_mem_fractionChars (h : c ∈ fractionChars hour minute second us) : isTimeChar c = true := by
  simp only [fractionChars, List.mem_append, List.mem_cons] at h
  rcases h with h | rfl | h
  · exact isTimeChar_of_mem_secondChars h
  · rfl
  · simp [isTimeChar, isDigit_of_mem_padded h]

theorem isOffsetMark_of_isTimeChar (h : isTimeChar c = true) : isOffsetMark c = false := by
  rw [Bool.eq_false_iff]
  intro hm
  simp only [isOffsetMark, Bool.or_eq_true, beq_iff_eq] at hm
  rcases hm with (rfl | rfl) | rfl <;> exact absurd h (by decide)

theorem utf8Size_of_isTimeChar (h : isTimeChar c = true) : c.utf8Size = 1 := by
  simp only [isTimeChar, Bool.or_eq_true, beq_iff_eq] at h
  rcases h with (h | rfl) | rfl
  · simp only [Char.isDigit, Bool.and_eq_true, decide_eq_true_eq] at h
    have hle : c.val ≤ 0x7f := UInt32.le_trans h.2 (by decide)
    rw [Char.utf8Size]
    exact if_pos hle
  · rfl
  · rfl

theorem characters?_eq_self {s : String} (h : Text.mark ∉ s.toList) : characters? s = some s.toList := by
  have hp : Text.points s = s.toList.map Char.toNat := Text.pointsOf_eq_map h
  have hs (i : Nat) : (s.toList.map Char.toNat)[i]?.any Text.isSurrogate = false := by
    rw [List.getElem?_map]
    cases s.toList[i]? with
    | none => rfl
    | some c => exact Text.isSurrogate_toNat c
  have ha : (s.toList.map Char.toNat).any Text.isSurrogate = false := by
    simp [Text.isSurrogate_toNat]
  have hc : (s.toList.map Char.toNat).map Char.ofNat = s.toList := by
    simp [Function.comp_def]
  simp only [characters?, hp, List.find?_cons, hs, List.find?_nil, ha, Bool.false_eq_true, if_false, hc]

theorem octetWide_eq_self (h : ∀ c ∈ cs, c.utf8Size = 1) : octetWide cs = cs := by
  induction cs with
  | nil => rfl
  | cons c cs ih =>
    obtain ⟨hc, h⟩ := List.forall_mem_cons.mp h
    have hcs : octetWide cs = cs := ih h
    show List.replicate c.utf8Size c ++ octetWide cs = c :: cs
    rw [hc, hcs]
    rfl

end

/-! ## Offsets -/

section
variable {us : Nat}

def offsetClock (us : Nat) : List Char :=
  if us % 1000000 ≠ 0 then
    fractionChars (us / 1000000 / 3600) (us / 1000000 / 60 % 60) (us / 1000000 % 60) (us % 1000000)
  else if us / 1000000 % 60 ≠ 0 then secondChars (us / 1000000 / 3600) (us / 1000000 / 60 % 60) (us / 1000000 % 60)
  else minuteChars (us / 1000000 / 3600) (us / 1000000 / 60 % 60)

theorem toList_offsetText (o : Int) :
    (offsetText o).toList = (if o < 0 then '-' else '+') :: offsetClock o.natAbs := by
  have hsign : (if o < 0 then "-" else "+").toList = [if o < 0 then '-' else '+'] := by split <;> rfl
  simp only [offsetText, offsetClock, fractionChars, secondChars, minuteChars, String.toList_append, hsign]
  by_cases hu : o.natAbs % 1000000 = 0
  · by_cases hs : o.natAbs / 1000000 % 60 = 0 <;> simp [hu, hs]
  · simp [hu]

theorem readClock_offsetClock (h : us < 86400000000) : readClock (offsetClock us) (offsetClock us).length =
    some ⟨us / 1000000 / 3600, us / 1000000 / 60 % 60, us / 1000000 % 60, us % 1000000, false⟩ := by
  have hh : us / 1000000 / 3600 < 10 ^ 2 := by omega
  have hm : us / 1000000 / 60 % 60 < 10 ^ 2 := by omega
  have hs : us / 1000000 % 60 < 10 ^ 2 := by omega
  have hu : us % 1000000 < 10 ^ 6 := by omega
  unfold offsetClock
  split
  · rw [length_fractionChars hh hm hs hu, ← List.append_nil (fractionChars _ _ _ _),
      readClock_fractionChars hh hm hs hu rfl]
    rfl
  · rename_i hu0
    have hu0 : us % 1000000 = 0 := by simpa using hu0
    split
    · rw [length_secondChars hh hm hs, ← List.append_nil (secondChars _ _ _), readClock_secondChars hh hm hs, hu0]
      rfl
    · rename_i hs0
      have hs0 : us / 1000000 % 60 = 0 := by simpa using hs0
      rw [length_minuteChars hh hm, ← List.append_nil (minuteChars _ _), readClock_minuteChars hh hm, hu0, hs0]
      rfl

theorem isTimeChar_of_mem_offsetClock {c : Char} (h : c ∈ offsetClock us) : isTimeChar c = true := by
  unfold offsetClock at h
  split at h
  · exact isTimeChar_of_mem_fractionChars h
  · split at h
    · exact isTimeChar_of_mem_secondChars h
    · exact isTimeChar_of_mem_minuteChars h

end

/-! ## Whole timestamps -/

section
variable {clock : Clock} {cs : List Char}

theorem takeWhile_time (hcs : ∀ c ∈ cs, isTimeChar c = true) {off : List Char}
    (hoff : ∀ c ∈ off.head?, isOffsetMark c = true) : (cs ++ off).takeWhile (!isOffsetMark ·) = cs := by
  have hc : ∀ c ∈ cs, (!isOffsetMark c) = true := fun c h => by rw [isOffsetMark_of_isTimeChar (hcs c h)]; rfl
  rw [List.takeWhile_append_of_pos hc]
  cases off with
  | nil => simp
  | cons m off =>
    have hm : isOffsetMark m = true := hoff m rfl
    simp [hm]

theorem readTime_local (hcs : ∀ c ∈ cs, isTimeChar c = true) (hr : readClock cs cs.length = some clock)
    (hg : clock.goesOn = false) : readTime cs = some (clock, none) := by
  have ht : (cs ++ []).takeWhile (!isOffsetMark ·) = cs := takeWhile_time hcs (by simp)
  rw [List.append_nil] at ht
  simp [readTime, ht, hr, hg]

/-- The microseconds that the fields of an offset stand for, as far as the reader looks at them. -/
def Clock.offset (o : Clock) : Int :=
  let seconds : Int := (o.hour * 3600 + o.minute * 60 + o.second : Nat)
  if seconds = 0 then 0 else seconds * 1000000 + o.microsecond

theorem readTime_marked {m : Char} {off : List Char} {o : Clock} (hm : isOffsetMark m = true) (hz : m ≠ 'Z')
    (hcs : ∀ c ∈ cs, isTimeChar c = true) (hr : readClock (cs ++ m :: off) cs.length = some clock)
    (ho : readClock off off.length = some o) (hg : o.goesOn = false) :
    readTime (cs ++ m :: off) = some (clock, some (if m == '-' then -o.offset else o.offset)) := by
  have ht : (cs ++ m :: off).takeWhile (!isOffsetMark ·) = cs := takeWhile_time hcs (by simpa using hm)
  simp only [readTime, ht, hr, List.drop_left, Option.bind_eq_bind, Option.bind_some]
  rw [ho, Option.bind_some, hg]
  by_cases hd : (m == '-') = true
  · rw [if_pos hd, if_pos hd]
    rfl
  · rw [if_neg hd, if_neg hd]
    rfl

theorem readTime_offset {o : Int} (ho : o.natAbs < 86400000000) (he : o = 0 ∨ 1000000 ≤ o.natAbs)
    (hcs : ∀ c ∈ cs, isTimeChar c = true)
    (hr : readClock (cs ++ (offsetText o).toList) cs.length = some clock) :
    readTime (cs ++ (offsetText o).toList) = some (clock, some o) := by
  have hclock := readClock_offsetClock ho
  have hfields : Clock.offset ⟨o.natAbs / 1000000 / 3600, o.natAbs / 1000000 / 60 % 60, o.natAbs / 1000000 % 60,
      o.natAbs % 1000000, false⟩ = o.natAbs := by
    have hsum : o.natAbs / 1000000 / 3600 * 3600 + o.natAbs / 1000000 / 60 % 60 * 60 + o.natAbs / 1000000 % 60 =
        o.natAbs / 1000000 := by omega
    simp only [Clock.offset, hsum]
    split <;> omega
  rw [toList_offsetText] at hr ⊢
  by_cases hneg : o < 0
  · rw [if_pos hneg] at hr ⊢
    rw [readTime_marked rfl (by decide) hcs hr hclock rfl, hfields, if_pos (by decide)]
    congr 3
    omega
  · rw [if_neg hneg] at hr ⊢
    rw [readTime_marked rfl (by decide) hcs hr hclock rfl, hfields, if_neg (by decide)]
    congr 3
    omega

end

structure Valid (t : Timestamp) : Prop where
  year_range : 1 ≤ t.year ∧ t.year ≤ 9999
  month_range : 1 ≤ t.month ∧ t.month ≤ 12
  day_range : 1 ≤ t.day ∧ t.day ≤ daysInMonth t.year t.month
  hour_le : t.hour ≤ 23
  minute_le : t.minute ≤ 59
  second_le : t.second ≤ 59
  microsecond_lt : t.microsecond < 1000000
  offset_lt : ∀ o ∈ t.offset, o.natAbs < 86400000000
  offset_whole : ∀ o ∈ t.offset, o = 0 ∨ 1000000 ≤ o.natAbs

theorem daysInMonth_le (year month : Nat) : daysInMonth year month ≤ 31 := by
  unfold daysInMonth
  split
  · split <;> decide
  · split <;> decide

section
variable {t : Timestamp}

theorem Valid.check_eq (h : t.Valid) : t.check = .ok t := by
  have ho : (t.offset.getD 0).natAbs < 86400000000 := by
    cases ht : t.offset with
    | none => decide
    | some o => exact h.offset_lt o ht
  have hy := h.year_range
  have hm := h.month_range
  have hd := h.day_range
  have hh := h.hour_le
  have hn := h.minute_le
  have hs := h.second_le
  rw [check, if_neg (by omega), if_neg (by omega), if_neg (by omega), if_neg (by omega), if_neg (by omega),
    if_neg (by omega), if_neg (by omega)]

def clockChars (t : Timestamp) : List Char :=
  if t.microsecond = 0 then secondChars t.hour t.minute t.second
  else fractionChars t.hour t.minute t.second t.microsecond

def offsetChars (t : Timestamp) : List Char := ((t.offset.map offsetText).getD "").toList

theorem toList_toText (t : Timestamp) :
    t.toText.toList = dateChars t.year t.month t.day ++ 'T' :: (t.clockChars ++ t.offsetChars) := by
  simp only [toText, String.toList_append, dateChars, clockChars, offsetChars, fractionChars, secondChars, minuteChars]
  by_cases hu : t.microsecond = 0 <;> simp [hu]

theorem isTimeChar_of_mem_clockChars {c : Char} (h : c ∈ t.clockChars) : isTimeChar c = true := by
  unfold clockChars at h
  split at h
  · exact isTimeChar_of_mem_secondChars h
  · exact isTimeChar_of_mem_fractionChars h

theorem utf8Size_of_mem_offsetChars {c : Char} (h : c ∈ t.offsetChars) : c.utf8Size = 1 := by
  unfold offsetChars at h
  cases ho : t.offset with
  | none => simp [ho] at h
  | some o =>
    simp only [ho, Option.map_some, Option.getD_some, toList_offsetText, List.mem_cons] at h
    rcases h with rfl | h
    · split <;> rfl
    · exact utf8Size_of_isTimeChar (isTimeChar_of_mem_offsetClock h)

theorem utf8Size_of_mem_dateChars {year month day : Nat} {c : Char} (h : c ∈ dateChars year month day) :
    c.utf8Size = 1 := by
  have hd {w n : Nat} (h : c ∈ (padded w n).toList) : c.utf8Size = 1 :=
    utf8Size_of_isTimeChar (by simp [isTimeChar, isDigit_of_mem_padded h])
  simp only [dateChars, List.mem_append, List.mem_cons] at h
  rcases h with h | rfl | h | rfl | h
  · exact hd h
  · rfl
  · exact hd h
  · rfl
  · exact hd h

theorem utf8Size_of_mem_toText {c : Char} (h : c ∈ t.toText.toList) : c.utf8Size = 1 := by
  simp only [toList_toText, List.mem_append, List.mem_cons] at h
  rcases h with h | rfl | h | h
  · exact utf8Size_of_mem_dateChars h
  · rfl
  · exact utf8Size_of_isTimeChar (isTimeChar_of_mem_clockChars h)
  · exact utf8Size_of_mem_offsetChars h

theorem isDigit_next_offsetChars (t : Timestamp) : (next t.offsetChars).isDigit = false := by
  unfold offsetChars
  cases t.offset with
  | none => rfl
  | some o =>
    rw [Option.map_some, Option.getD_some, toList_offsetText]
    show Char.isDigit (if o < 0 then '-' else '+') = false
    split <;> rfl

theorem Valid.readClock_eq (h : t.Valid) : readClock (t.clockChars ++ t.offsetChars) t.clockChars.length =
    some ⟨t.hour, t.minute, t.second, t.microsecond, !atEnd t.offsetChars⟩ := by
  have hh : t.hour < 10 ^ 2 := Nat.lt_of_le_of_lt h.hour_le (by decide)
  have hm : t.minute < 10 ^ 2 := Nat.lt_of_le_of_lt h.minute_le (by decide)
  have hs : t.second < 10 ^ 2 := Nat.lt_of_le_of_lt h.second_le (by decide)
  unfold clockChars
  split
  · rename_i hu
    rw [length_secondChars hh hm hs, readClock_secondChars hh hm hs, hu]
  · rw [length_fractionChars hh hm hs h.microsecond_lt,
      readClock_fractionChars hh hm hs h.microsecond_lt (isDigit_next_offsetChars t)]

theorem Valid.readTime_eq (h : t.Valid) : ∃ goesOn, readTime (t.clockChars ++ t.offsetChars) =
    some (⟨t.hour, t.minute, t.second, t.microsecond, goesOn⟩, t.offset) := by
  have hc : ∀ c ∈ t.clockChars, isTimeChar c = true := fun _ => isTimeChar_of_mem_clockChars
  have hr := h.readClock_eq
  refine ⟨!atEnd t.offsetChars, ?_⟩
  cases ho : t.offset with
  | none =>
    have hn : t.offsetChars = [] := by simp [offsetChars, ho]
    rw [hn, List.append_nil] at hr ⊢
    exact readTime_local hc hr rfl
  | some o =>
    have hn : t.offsetChars = (offsetText o).toList := by simp [offsetChars, ho]
    rw [hn] at hr ⊢
    exact readTime_offset (h.offset_lt o ho) (h.offset_whole o ho) hc hr

theorem Valid.parse_eq (h : t.Valid) : parse t.toText.toList = some t := by
  have hy : t.year < 10 ^ 4 := Nat.lt_of_le_of_lt h.year_range.2 (by decide)
  have hm : t.month < 10 ^ 2 := Nat.lt_of_le_of_lt h.month_range.2 (by decide)
  have hd : t.day < 10 ^ 2 := Nat.lt_of_le_of_lt (Nat.le_trans h.day_range.2 (daysInMonth_le _ _)) (by decide)
  have hl := length_dateChars hy hm hd
  have hw : octetWide (t.clockChars ++ t.offsetChars) = t.clockChars ++ t.offsetChars := by
    apply octetWide_eq_self
    intro c hc
    rcases List.mem_append.mp hc with hc | hc
    · exact utf8Size_of_isTimeChar (isTimeChar_of_mem_clockChars hc)
    · exact utf8Size_of_mem_offsetChars hc
  obtain ⟨goesOn, ht⟩ := h.readTime_eq
  rw [toList_toText, parse, if_neg (by simp only [List.length_append, hl]; omega)]
  simp only [Option.bind_eq_bind, dateSize_dateChars hy hm hd, readDate_dateChars hy hm hd, Option.bind_some,
    List.drop_left' hl, hw, ht]
  rfl

theorem Valid.read_toText (h : t.Valid) : read t.toText = .ok t := by
  have hm : Text.mark ∉ t.toText.toList := fun hc => absurd (utf8Size_of_mem_toText hc) (by decide)
  rw [read, characters?_eq_self hm, Option.bind_some, h.parse_eq]
  exact h.check_eq

end

end RemoteCall.Timestamp
