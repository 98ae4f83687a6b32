import Mathlib.Algebra.Order.Field.Power
import Mathlib.Tactic.FieldSimp
import Mathlib.Tactic.Linarith
import Mathlib.Tactic.NormNum
import Mathlib.Tactic.Ring
import RemoteCall.Number.Binary64

/-!
# How far rounding goes

Rounding a quotient to an integer is off by at most one half, so an integer within half a unit is the rounded one.
Rounding to a double is off by at most half a unit in the last place, which is small for a quotient below a given power
of two.
-/

namespace RemoteCall

/-! ## To an integer -/

theorem abs_roundHalfEven_sub_le (n : Nat) {d : Nat} (hd : 0 < d) : |(roundHalfEven n d : ℚ) - n / d| ≤ 1 / 2 := by
  have hd' : (0 : ℚ) < d := by exact_mod_cast hd
  have hu : (2 * (roundHalfEven n d * d) : ℚ) ≤ 2 * n + d := by exact_mod_cast two_mul_roundHalfEven_le n d
  have hl : (2 * n : ℚ) ≤ 2 * (roundHalfEven n d * d) + d := by exact_mod_cast two_mul_le_roundHalfEven n hd
  have hn : (n : ℚ) = n / d * d := by field_simp
  rw [hn] at hu hl
  rw [abs_le]
  constructor
  · by_contra h
    have := mul_lt_mul_of_pos_right (not_le.mp h) hd'
    linarith
  · by_contra h
    have := mul_lt_mul_of_pos_right (not_le.mp h) hd'
    linarith

theorem roundHalfEven_eq {n d k : Nat} (hd : 0 < d) (h : |(n : ℚ) / d - k| < 1 / 2) : roundHalfEven n d = k := by
  have hr := abs_roundHalfEven_sub_le n hd
  have ht := abs_sub_le (roundHalfEven n d : ℚ) (n / d) k
  have hlt : |((roundHalfEven n d : ℤ) - (k : ℤ) : ℚ)| < 1 := by push_cast; linarith
  have hz : |(roundHalfEven n d : ℤ) - (k : ℤ)| < 1 := by exact_mod_cast hlt
  have := Int.abs_lt_one_iff.mp hz
  omega

namespace Binary64

/-! ## Quotients and powers of two -/

theorem ratio_pos (s : Nat) (e : Int) : 0 < (ratio s e).2 := by
  unfold ratio
  split
  · exact Nat.pow_pos Nat.two_pos
  · exact Nat.one_pos

theorem ratio_eq (s : Nat) (e : Int) : ((ratio s e).1 : ℚ) / (ratio s e).2 = s * 2 ^ e := by
  unfold ratio
  split
  · rename_i h
    obtain ⟨k, rfl⟩ : ∃ k : Nat, e = -k := ⟨(-e).toNat, by omega⟩
    simp [div_eq_mul_inv]
  · rename_i h
    obtain ⟨k, rfl⟩ : ∃ k : Nat, e = k := ⟨e.toNat, by omega⟩
    simp

theorem two_zpow_le_iff {n d : Nat} (hd : 0 < d) (g : Int) :
    (if g < 0 then d ≤ n * Nat.pow 2 (-g).toNat else d * Nat.pow 2 g.toNat ≤ n) ↔ (2 : ℚ) ^ g ≤ n / d := by
  have hd' : (0 : ℚ) < d := by exact_mod_cast hd
  rw [le_div_iff₀ hd']
  split
  · rename_i h
    obtain ⟨k, rfl⟩ : ∃ k : Nat, g = -k := ⟨(-g).toNat, by omega⟩
    have hp : (0 : ℚ) < 2 ^ k := by positivity
    rw [zpow_neg, zpow_natCast, inv_mul_le_iff₀ hp, mul_comm]
    simp only [neg_neg, Int.toNat_natCast, Nat.pow_eq]
    exact_mod_cast Iff.rfl
  · rename_i h
    obtain ⟨k, rfl⟩ : ∃ k : Nat, g = k := ⟨g.toNat, by omega⟩
    rw [zpow_natCast, mul_comm]
    simp only [Int.toNat_natCast, Nat.pow_eq]
    exact_mod_cast Iff.rfl

theorem two_zpow_log2_le {n d : Nat} (hn : 0 < n) (hd : 0 < d) :
    (2 : ℚ) ^ ((n.log2 : Int) - d.log2 - 1) ≤ n / d := by
  have hd' : (0 : ℚ) < d := by exact_mod_cast hd
  have h1 : (2 : ℚ) ^ n.log2 ≤ n := by exact_mod_cast Nat.log2_self_le hn.ne'
  have h2 : (d : ℚ) ≤ 2 ^ (d.log2 + 1) := by exact_mod_cast Nat.lt_log2_self.le
  rw [le_div_iff₀ hd']
  calc (2 : ℚ) ^ ((n.log2 : Int) - d.log2 - 1) * d
      ≤ 2 ^ ((n.log2 : Int) - d.log2 - 1) * 2 ^ (d.log2 + 1) := by gcongr
    _ = 2 ^ n.log2 := by
      rw [← zpow_natCast, ← zpow_add₀ two_ne_zero, ← zpow_natCast]
      congr 1
      push_cast
      ring
    _ ≤ n := h1

theorem two_zpow_floorLog2_le {n d : Nat} (hn : 0 < n) (hd : 0 < d) : (2 : ℚ) ^ floorLog2 n d ≤ n / d := by
  have hiff := two_zpow_le_iff (n := n) hd ((n.log2 : Int) - d.log2)
  unfold floorLog2
  dsimp only
  by_cases h : (2 : ℚ) ^ ((n.log2 : Int) - d.log2) ≤ n / d
  · rwa [if_pos (hiff.mpr h)]
  · rw [if_neg fun hc => h (hiff.mp hc)]
    exact two_zpow_log2_le hn hd

theorem floorLog2_lt {n d : Nat} (hn : 0 < n) (hd : 0 < d) {k : Int} (h : (n : ℚ) / d < 2 ^ k) : floorLog2 n d < k :=
  (zpow_lt_zpow_iff_right₀ one_lt_two).mp ((two_zpow_floorLog2_le hn hd).trans_lt h)

/-! ## To a double -/

/-- Rounding in units of a power of two is rounding the quotient of the units. -/
theorem exists_roundScaled_eq (n : Nat) {d : Nat} (hd : 0 < d) (e : Int) :
    ∃ p q, 0 < q ∧ roundScaled n d e = roundHalfEven p q ∧ (p : ℚ) / q = n / d / 2 ^ e := by
  have hd' : (0 : ℚ) < d := by exact_mod_cast hd
  unfold roundScaled
  split
  · rename_i h
    obtain ⟨k, rfl⟩ : ∃ k : Nat, e = -k := ⟨(-e).toNat, by omega⟩
    refine ⟨_, d, hd, rfl, ?_⟩
    simp only [neg_neg, Int.toNat_natCast, Nat.pow_eq]
    push_cast
    rw [zpow_neg, zpow_natCast]
    field_simp
  · rename_i h
    obtain ⟨k, rfl⟩ : ∃ k : Nat, e = k := ⟨e.toNat, by omega⟩
    refine ⟨n, _, Nat.mul_pos hd (Nat.pow_pos Nat.two_pos), rfl, ?_⟩
    simp only [Int.toNat_natCast]
    push_cast
    rw [zpow_natCast]
    field_simp

theorem abs_roundScaled_sub_le (n : Nat) {d : Nat} (hd : 0 < d) (e : Int) :
    |(roundScaled n d e : ℚ) * 2 ^ e - n / d| ≤ 2 ^ e / 2 := by
  have hp : (0 : ℚ) < 2 ^ e := by positivity
  obtain ⟨p, q, hq, hr, hv⟩ := exists_roundScaled_eq n hd e
  have hscale : (roundScaled n d e : ℚ) * 2 ^ e - n / d = (roundHalfEven p q - p / q) * 2 ^ e := by
    rw [hr, sub_mul, hv, div_mul_cancel₀ _ hp.ne']
  rw [hscale, abs_mul, abs_of_pos hp]
  have := mul_le_mul_of_nonneg_right (abs_roundHalfEven_sub_le p hq) hp.le
  linarith

def lastPlace (n d : Nat) : Int := max minExponent (floorLog2 n d - 52)

/-- What a quotient is rounded to, as if there were no largest double. -/
def roundedValue (n d : Nat) : ℚ := roundScaled n d (lastPlace n d) * 2 ^ lastPlace n d

theorem roundedValue_zero {d : Nat} (hd : 0 < d) : roundedValue 0 d = 0 := by
  obtain ⟨p, q, hq, hr, hv⟩ := exists_roundScaled_eq 0 hd (lastPlace 0 d)
  have hz : roundHalfEven p q = 0 := roundHalfEven_eq hq (by rw [hv]; norm_num)
  rw [roundedValue, hr, hz]
  norm_num

theorem ofRatio_eq (negative : Bool) (n : Nat) {d : Nat} (hd : 0 < d) {k : Int} (h : (n : ℚ) / d < 2 ^ k)
    (hmax : k ≤ maxExponent) :
    ∃ s e, ofRatio negative n d = .finite negative s e ∧ (s : ℚ) * 2 ^ e = roundedValue n d := by
  unfold ofRatio
  split
  · rename_i hn
    subst hn
    exact ⟨0, minExponent, rfl, by rw [roundedValue_zero hd]; norm_num⟩
  · rename_i hn
    have hlog := floorLog2_lt (Nat.pos_of_ne_zero hn) hd h
    have hmin : minExponent < maxExponent := by decide
    have he : max minExponent (floorLog2 n d - 52) < maxExponent := by omega
    unfold roundedValue lastPlace
    generalize max minExponent (floorLog2 n d - 52) = e at he
    simp only [if_pos he, if_neg (not_lt.mpr he.le)]
    split
    · -- a significand that reaches the next power of two is written with half of it
      rename_i hs
      refine ⟨_, _, rfl, ?_⟩
      rw [hs, zpow_add_one₀ two_ne_zero]
      norm_num
      ring
    · exact ⟨_, _, rfl, rfl⟩

theorem abs_roundedValue_sub_le (n : Nat) {d : Nat} (hd : 0 < d) {k : Int} (h : (n : ℚ) / d < 2 ^ k)
    (hmin : minExponent + 53 ≤ k) : |roundedValue n d - n / d| ≤ 2 ^ (k - 54) := by
  rcases Nat.eq_zero_or_pos n with rfl | hn
  · rw [roundedValue_zero hd]
    norm_num
    positivity
  · have hlog := floorLog2_lt hn hd h
    have he : lastPlace n d ≤ k - 53 := by
      unfold lastPlace
      omega
    refine (abs_roundScaled_sub_le n hd _).trans ?_
    have hpow : (2 : ℚ) ^ (k - 53) = 2 ^ (k - 54) * 2 := by
      rw [← zpow_add_one₀ two_ne_zero]; congr 1; ring
    have := zpow_le_zpow_right₀ (one_le_two (α := ℚ)) he
    linarith

/-- The double nearest to a quotient below `2 ^ k` is finite and off by at most half a unit in the last of 53 places. -/
theorem ofRatio_near (negative : Bool) (n : Nat) {d : Nat} (hd : 0 < d) {k : Int} (h : (n : ℚ) / d < 2 ^ k)
    (hmin : minExponent + 53 ≤ k) (hmax : k ≤ maxExponent) :
    ∃ s e, ofRatio negative n d = .finite negative s e ∧ |(s : ℚ) * 2 ^ e - n / d| ≤ 2 ^ (k - 54) := by
  obtain ⟨s, e, ho, hv⟩ := ofRatio_eq negative n hd h hmax
  exact ⟨s, e, ho, hv ▸ abs_roundedValue_sub_le n hd h hmin⟩

end Binary64

end RemoteCall
