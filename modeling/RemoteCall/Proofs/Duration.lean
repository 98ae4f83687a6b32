import RemoteCall.Duration
import RemoteCall.Proofs.Number.Rounding

/-!
# Durations as seconds and back

A number of seconds that is near enough to a whole number of microseconds becomes that number: the fraction of a second,
scaled to microseconds as a double, is off by very little. A duration below `2 ^ 33` seconds is so near to its own seconds
as a double, and comes back exactly.
-/

namespace RemoteCall.Duration

/-! ## Whole seconds and the rest -/

section
variable {d : Nat} (n : Nat) (hd : 0 < d)
include hd

theorem microseconds_eq_whole_add_rest :
    (n : ℚ) / d * 1000000 = (n / d * 1000000 : Nat) + ((n % d * 1000000 : Nat) : ℚ) / d := by
  have hd' : (0 : ℚ) < d := by exact_mod_cast hd
  have hn : (n : ℚ) = (d * (n / d : Nat) + (n % d : Nat) : ℚ) := by exact_mod_cast (Nat.div_add_mod n d).symm
  conv_lhs => rw [hn]
  push_cast
  field_simp

theorem rest_lt : ((n % d * 1000000 : Nat) : ℚ) / d < 2 ^ (20 : Int) := by
  have hd' : (0 : ℚ) < d := by exact_mod_cast hd
  rw [div_lt_iff₀ hd']
  have := Nat.mod_lt n hd
  have : n % d * 1000000 < 2 ^ 20 * d := by omega
  exact_mod_cast this

/-- The rest is a double before it is added to the whole seconds, and their sum is rounded as one quotient. -/
theorem exists_roundedSum_eq : ∃ p q, 0 < q ∧
    roundedSum (n / d * 1000000) (.ofRatio false (n % d * 1000000) d) = roundHalfEven p q ∧
    (p : ℚ) / q = (n / d * 1000000 : Nat) + Binary64.roundedValue (n % d * 1000000) d := by
  obtain ⟨s, e, ho, hv⟩ := Binary64.ofRatio_eq false (n % d * 1000000) hd (rest_lt n hd) (by decide)
  have hp := Binary64.ratio_pos s e
  have hp' : (0 : ℚ) < (Binary64.ratio s e).2 := by exact_mod_cast hp
  refine ⟨_, _, hp, by rw [ho, roundedSum], ?_⟩
  rw [← hv, ← Binary64.ratio_eq]
  push_cast
  field_simp

end

/-! ## Exact microseconds -/

/-- Scaling the fraction loses at most `2 ^ (-34)` microseconds, so a little less than half a microsecond may be lost
before. -/
theorem nearestMicroseconds_eq {s : Nat} {e : Int} {k : Nat}
    (h : |(s : ℚ) * 2 ^ e * 1000000 - k| < 1 / 2 - 2 ^ (-34 : Int)) : nearestMicroseconds s e = k := by
  have hd := Binary64.ratio_pos s e
  rw [← Binary64.ratio_eq] at h
  rw [nearestMicroseconds]
  generalize Binary64.ratio s e = r at hd h ⊢
  obtain ⟨n, d⟩ := r
  dsimp only at hd h ⊢
  obtain ⟨p, q, hq, hr, hv⟩ := exists_roundedSum_eq n hd
  rw [hr]
  apply roundHalfEven_eq hq
  rw [hv]
  rw [microseconds_eq_whole_add_rest n hd] at h
  have herr := Binary64.abs_roundedValue_sub_le (n % d * 1000000) hd (rest_lt n hd) (by decide)
  have ht := abs_sub_le (((n / d * 1000000 : Nat) : ℚ) + Binary64.roundedValue (n % d * 1000000) d)
    ((n / d * 1000000 : Nat) + ((n % d * 1000000 : Nat) : ℚ) / d) k
  rw [add_sub_add_left_eq_sub] at ht
  have hexp : (20 : Int) - 54 = -34 := rfl
  rw [hexp] at herr
  linarith

theorem ofSeconds_of_isZero {x : Binary64} (h : x.isZero) : ofSeconds (.double x) = .ok zero := by
  cases x with
  | nan => cases h
  | infinite _ => cases h
  | finite negative s e =>
    obtain rfl : s = 0 := by simpa [Binary64.isZero] using h
    have hn : nearestMicroseconds 0 e = 0 := nearestMicroseconds_eq (by norm_num)
    simp only [ofSeconds, hn]
    cases negative <;> rfl

/-- Below `2 ^ 33` seconds the double is off by at most `2 ^ (-21)` seconds, which is less than half a microsecond. -/
theorem ofSeconds_seconds {d : Duration} (h : d.microseconds.natAbs < 2 ^ 33 * 1000000) :
    ofSeconds (.double d.seconds) = .ok d := by
  have hlt : (d.microseconds.natAbs : ℚ) / (1000000 : Nat) < 2 ^ (33 : Int) := by
    rw [div_lt_iff₀ (by norm_num)]
    exact_mod_cast h
  obtain ⟨s, e, hs, herr⟩ := Binary64.ofRatio_near (d.microseconds < 0) d.microseconds.natAbs
    (by decide : 0 < 1000000) hlt (by decide) (by decide)
  have hn : nearestMicroseconds s e = d.microseconds.natAbs := by
    apply nearestMicroseconds_eq
    have hscale : (s : ℚ) * 2 ^ e * 1000000 - d.microseconds.natAbs =
        (s * 2 ^ e - d.microseconds.natAbs / (1000000 : Nat)) * 1000000 := by
      push_cast
      ring
    rw [hscale, abs_mul, abs_of_pos (by norm_num : (0 : ℚ) < 1000000)]
    have hsmall : (2 : ℚ) ^ ((33 : Int) - 54) * 1000000 < 1 / 2 - 2 ^ (-34 : Int) := by norm_num
    have := mul_le_mul_of_nonneg_right herr (by norm_num : (0 : ℚ) ≤ 1000000)
    linarith
  have hsign : (if decide (d.microseconds < 0) = true then -(d.microseconds.natAbs : Int)
      else d.microseconds.natAbs) = d.microseconds := by
    by_cases hneg : d.microseconds < 0
    · simp only [hneg, decide_true, if_true]; omega
    · simp only [hneg, decide_false, Bool.false_eq_true, if_false]; omega
  simp only [seconds, hs, ofSeconds, hn, hsign]
  exact ofMicroseconds_of_representable d.representable

/-- The duration is below `2 ^ 33` seconds. -/
def Short (d : Duration) : Prop := d.microseconds < 2 ^ 33 * 1000000

instance (d : Duration) : Decidable d.Short := inferInstanceAs (Decidable (d.microseconds < 2 ^ 33 * 1000000))

theorem ofSeconds_of_short {d : Duration} (hz : zero ≤ d) (h : d.Short) : ofSeconds (.double d.seconds) = .ok d := by
  apply ofSeconds_seconds
  have hn : 0 ≤ d.microseconds := hz
  unfold Short at h
  omega

end RemoteCall.Duration
