import Mathlib.Data.Nat.Cast.Order.Field
import RemoteCall.Proofs.Duration
import RemoteCall.Proofs.Number.Monotone

/-!
# Seconds and their durations in order

The larger number of seconds never becomes the shorter duration, although a fraction is rounded twice, once to a double and
once to whole microseconds. So the doubles that become a duration are known by their size: the ones that are not negative
do below `86400000000000` seconds, and a NaN does not.
-/

namespace RemoteCall.Duration

/-! ## Magnitudes -/

section
variable {n d n' d' : Nat}

theorem roundedValue_million : Binary64.roundedValue 1000000 1 = 1000000 := by
  have hlast : Binary64.lastPlace 1000000 1 = -33 := by decide +kernel
  have hscaled : Binary64.roundScaled 1000000 1 (-33) = 1000000 * 2 ^ 33 := by decide +kernel
  rw [Binary64.roundedValue, hlast, hscaled]
  norm_num

theorem roundedValue_rest_le (n : Nat) (hd : 0 < d) : Binary64.roundedValue (n % d * 1000000) d ≤ 1000000 := by
  rw [← roundedValue_million]
  apply Binary64.roundedValue_mono hd Nat.one_pos
  have hd' : (0 : ℚ) < d := by exact_mod_cast hd
  rw [div_le_iff₀ hd']
  have hlt := Nat.mod_lt n hd
  have : n % d * 1000000 ≤ 1000000 * d := by omega
  push_cast at this ⊢
  rw [div_one]
  exact_mod_cast this

theorem whole_mono (hd' : 0 < d') (h : (n : ℚ) / d ≤ n' / d') : n / d ≤ n' / d' := by
  rw [Nat.le_div_iff_mul_le hd']
  have hd'' : (0 : ℚ) < d' := by exact_mod_cast hd'
  have hle := (Nat.cast_div_le (α := ℚ)).trans h
  rw [le_div_iff₀ hd''] at hle
  exact_mod_cast hle

/-- Within one second the rests are in order, and so are the doubles for them. The rest of an earlier second is rounded to
the next second at most. -/
theorem roundedSum_mono (hd : 0 < d) (hd' : 0 < d') (h : (n : ℚ) / d ≤ n' / d') :
    roundedSum (n / d * 1000000) (.ofRatio false (n % d * 1000000) d) ≤
      roundedSum (n' / d' * 1000000) (.ofRatio false (n' % d' * 1000000) d') := by
  obtain ⟨p, q, hq, hr, hv⟩ := exists_roundedSum_eq n hd
  obtain ⟨p', q', hq', hr', hv'⟩ := exists_roundedSum_eq n' hd'
  rw [hr, hr']
  apply roundHalfEven_mono hq hq'
  rw [hv, hv']
  rcases (whole_mono hd' h).eq_or_lt with he | hlt
  · have hrest : ((n % d * 1000000 : Nat) : ℚ) / d ≤ ((n' % d' * 1000000 : Nat) : ℚ) / d' := by
      have hs := microseconds_eq_whole_add_rest n hd
      have hs' := microseconds_eq_whole_add_rest n' hd'
      rw [he] at hs
      linarith
    rw [he]
    gcongr
    exact Binary64.roundedValue_mono hd hd' hrest
  · have hw : ((n / d * 1000000 : Nat) : ℚ) + 1000000 ≤ (n' / d' * 1000000 : Nat) := by
      have : n / d * 1000000 + 1000000 ≤ n' / d' * 1000000 := by omega
      exact_mod_cast this
    have hle := roundedValue_rest_le n hd
    have hnonneg := Binary64.roundedValue_nonneg (n' % d' * 1000000) d'
    linarith

theorem nearestMicroseconds_mono {s s' : Nat} {e e' : Int} (h : (s : ℚ) * 2 ^ e ≤ s' * 2 ^ e') :
    nearestMicroseconds s e ≤ nearestMicroseconds s' e' := by
  rw [← Binary64.ratio_eq, ← Binary64.ratio_eq] at h
  exact roundedSum_mono (Binary64.ratio_pos s e) (Binary64.ratio_pos s' e') h

theorem nearestMicroseconds_eq_zero {s : Nat} {e : Int} (h : (s : ℚ) * 2 ^ e ≤ 0) : nearestMicroseconds s e = 0 := by
  have hz : nearestMicroseconds 0 0 = 0 := nearestMicroseconds_eq (by norm_num)
  have hle : (s : ℚ) * 2 ^ e ≤ (0 : Nat) * 2 ^ (0 : Int) := h.trans_eq (by norm_num)
  have := nearestMicroseconds_mono hle
  omega

end

/-! ## Durations -/

section
variable {x y : Binary64} {a b : Duration}

theorem microseconds_of_ofSeconds {negative : Bool} {s : Nat} {e : Int}
    (h : ofSeconds (.double (.finite negative s e)) = .ok a) :
    a.microseconds = if negative then -(nearestMicroseconds s e : Int) else nearestMicroseconds s e :=
  microseconds_of_ofMicroseconds h

theorem exists_finite_of_ofSeconds (h : ofSeconds (.double x) = .ok a) : ∃ negative s e, x = .finite negative s e := by
  match x with
  | .nan | .infinite _ => cases h
  | .finite negative s e => exact ⟨negative, s, e, rfl⟩

theorem ofSeconds_mono (hx : ofSeconds (.double x) = .ok a) (hy : ofSeconds (.double y) = .ok b)
    (h : y.blt x = false) : a ≤ b := by
  obtain ⟨negative, s, e, rfl⟩ := exists_finite_of_ofSeconds hx
  obtain ⟨negative', s', e', rfl⟩ := exists_finite_of_ofSeconds hy
  have hs : (0 : ℚ) ≤ s * 2 ^ e := by positivity
  have hs' : (0 : ℚ) ≤ s' * 2 ^ e' := by positivity
  rw [le_def, microseconds_of_ofSeconds hx, microseconds_of_ofSeconds hy]
  simp only [Binary64.blt, Binary64.value] at h
  cases negative <;> cases negative' <;>
    simp only [Bool.false_eq_true, if_false, if_true, decide_eq_false_iff_not, not_lt] at h ⊢
  · exact_mod_cast nearestMicroseconds_mono h
  · rw [nearestMicroseconds_eq_zero (h.trans (neg_nonpos.mpr hs')),
      nearestMicroseconds_eq_zero (by linarith : (s' : ℚ) * 2 ^ e' ≤ 0)]
    decide
  · omega
  · have := nearestMicroseconds_mono (neg_le_neg_iff.mp h)
    omega

theorem ofSeconds_nonneg (hx : x.bltInt 0 = false) (h : ofSeconds (.double x) = .ok a) : zero ≤ a := by
  have hz : ofSeconds (.double .zero) = .ok zero := ofSeconds_of_isZero rfl
  refine ofSeconds_mono hz h ?_
  obtain ⟨negative, s, e, rfl⟩ := exists_finite_of_ofSeconds h
  simpa [Binary64.bltInt, Binary64.blt, Binary64.zero, Binary64.value] using hx

/-! ## Doubles that become durations -/

/-- The seconds are not a number or no less than `8.64e13`, which is a billion days. -/
def OutOfRange (x : Binary64) : Prop := x.isNaN = true ∨ x.bltInt 86400000000000 = false

instance : DecidablePred OutOfRange := fun _ => inferInstanceAs (Decidable (_ ∨ _))

/-- The largest double below `86400000000000` is less by a sixty-fourth. -/
theorem value_le_of_lt {s : Nat} {e : Int} (hs : s < 2 ^ 53) (h : (s : ℚ) * 2 ^ e < 86400000000000) :
    (s : ℚ) * 2 ^ e ≤ (5529599999999999 : Nat) * 2 ^ (-6 : Int) := by
  by_cases he : e < -6
  · have hle : (2 : ℚ) ^ e ≤ 2 ^ (-7 : Int) := zpow_le_zpow_right₀ one_le_two (by omega)
    have hlt : (s : ℚ) ≤ 2 ^ 53 := by exact_mod_cast hs.le
    calc (s : ℚ) * 2 ^ e ≤ 2 ^ 53 * 2 ^ (-7 : Int) := by gcongr
      _ ≤ (5529599999999999 : Nat) * 2 ^ (-6 : Int) := by norm_num
  · -- the double is a whole number of sixty-fourths
    obtain ⟨k, rfl⟩ : ∃ k : Nat, e = k + -6 := ⟨(e + 6).toNat, by omega⟩
    have hk : (s : ℚ) * 2 ^ ((k : Int) + -6) = (s * 2 ^ k : Nat) * 2 ^ (-6 : Int) := by
      rw [zpow_add₀ two_ne_zero, zpow_natCast, ← mul_assoc]
      push_cast
      rfl
    rw [hk] at h ⊢
    have hlt : ((s * 2 ^ k : Nat) : ℚ) < (5529600000000000 : Nat) := by
      rw [← lt_div_iff₀ (by positivity)] at h
      exact h.trans_eq (by norm_num)
    have hle : s * 2 ^ k ≤ 5529599999999999 := by
      have := Nat.cast_lt.mp hlt
      omega
    gcongr

theorem nearestMicroseconds_lt {s : Nat} {e : Int} (hs : s < 2 ^ 53) (h : (s : ℚ) * 2 ^ e < 86400000000000) :
    nearestMicroseconds s e < 86400000000000000000 :=
  (nearestMicroseconds_mono (value_le_of_lt hs h)).trans_lt (by decide +kernel)

theorem le_nearestMicroseconds {s : Nat} {e : Int} (h : (86400000000000 : ℚ) ≤ s * 2 ^ e) :
    86400000000000000000 ≤ nearestMicroseconds s e := by
  have hle : ((86400000000000 : Nat) : ℚ) * 2 ^ (0 : Int) ≤ s * 2 ^ e := by simpa using h
  exact le_of_eq_of_le (by decide +kernel) (nearestMicroseconds_mono hle)

theorem exists_ofMicroseconds {us : Int} : (∃ a, ofMicroseconds us = .ok a) ↔ Representable us := by
  constructor
  · rintro ⟨a, ha⟩
    exact microseconds_of_ofMicroseconds ha ▸ a.representable
  · exact fun h => ⟨_, ofMicroseconds_of_representable h⟩

theorem value_eq_magnitude {negative : Bool} {s : Nat} {e : Int}
    (h0 : (Binary64.finite negative s e).bltInt 0 = false) :
    (Binary64.finite negative s e).value = s * 2 ^ e ∧ ((s : ℚ) * 2 ^ e ≤ 0 ∨ negative = false) := by
  have hs : (0 : ℚ) ≤ s * 2 ^ e := by positivity
  cases negative with
  | false => exact ⟨rfl, .inr rfl⟩
  | true =>
    simp only [Binary64.bltInt, Binary64.value, if_true, decide_eq_false_iff_not, not_lt, Int.cast_zero] at h0
    have hz : (s : ℚ) * 2 ^ e ≤ 0 := by linarith
    refine ⟨?_, .inl hz⟩
    simp only [Binary64.value, if_true]
    linarith

theorem ofSeconds_of_nonneg {negative : Bool} {s : Nat} {e : Int}
    (h0 : (Binary64.finite negative s e).bltInt 0 = false) :
    ofSeconds (.double (.finite negative s e)) = ofMicroseconds (nearestMicroseconds s e) := by
  simp only [ofSeconds]
  rcases (value_eq_magnitude h0).2 with hz | rfl
  · rw [nearestMicroseconds_eq_zero hz]
    cases negative <;> rfl
  · rfl

theorem exists_ofSeconds (hc : x.Canonical) (h0 : x.bltInt 0 = false) :
    (∃ a, ofSeconds (.double x) = .ok a) ↔ ¬ OutOfRange x := by
  match x with
  | .nan => simp [ofSeconds, OutOfRange, Binary64.isNaN]
  | .infinite negative =>
    cases (show negative = false from h0)
    simp [ofSeconds, OutOfRange, Binary64.bltInt]
  | .finite negative s e =>
    have hlimit : OutOfRange (.finite negative s e) ↔ ¬ (s : ℚ) * 2 ^ e < 86400000000000 := by
      rw [← (value_eq_magnitude h0).1]
      simp [OutOfRange, Binary64.isNaN, Binary64.bltInt]
    rw [ofSeconds_of_nonneg h0, exists_ofMicroseconds, hlimit, not_not]
    constructor
    · intro hr
      by_contra hge
      have := le_nearestMicroseconds (not_lt.mp hge)
      have hlt : (nearestMicroseconds s e : Int) < (maxDays + 1) * microsecondsPerDay := hr.2
      simp only [maxDays, microsecondsPerDay] at hlt
      omega
    · intro hlt
      have := nearestMicroseconds_lt hc.1 hlt
      simp only [Representable, maxDays, microsecondsPerDay]
      omega

end

end RemoteCall.Duration
