import RemoteCall.Proofs.Number.Rounding

/-!
# Rounding keeps the order

The larger of two quotients is never rounded to the smaller number, neither to an integer nor to a double. Of two
quotients with the same last place this is so because their units are rounded to integers; of two quotients with different
last places a power of two lies in between, which is a double itself. What a quotient is rounded to has the one form in
which the format has it.
-/

namespace RemoteCall

/-! ## To an integer -/

theorem roundHalfEven_half {n d k : Nat} (hd : 0 < d) (h : (n : ℚ) / d = k + 1 / 2) :
    roundHalfEven n d = k + k % 2 := by
  have hn : 2 * n = d * (2 * k) + d := by
    have hd' : (0 : ℚ) < d := by exact_mod_cast hd
    rw [div_eq_iff hd'.ne'] at h
    have hq : (2 * n : ℚ) = d * (2 * k) + d := by rw [h]; ring
    exact_mod_cast hq
  have hmod := Nat.div_add_mod n d
  have hlt := Nat.mod_lt n hd
  have hk : n / d = k := by
    apply Nat.div_eq_of_lt_le
    · nlinarith
    · nlinarith
  rw [hk] at hmod
  have hm : 2 * (n % d) = d := by nlinarith
  simp only [roundHalfEven, hk, hm, Nat.lt_irrefl, if_false]

/-- Were the smaller quotient rounded to the larger integer, both would lie halfway between two integers, which are rounded
to the same even one. -/
theorem roundHalfEven_mono {n d n' d' : Nat} (hd : 0 < d) (hd' : 0 < d') (h : (n : ℚ) / d ≤ n' / d') :
    roundHalfEven n d ≤ roundHalfEven n' d' := by
  by_contra hlt
  have hr := abs_le.mp (abs_roundHalfEven_sub_le n hd)
  have hr' := abs_le.mp (abs_roundHalfEven_sub_le n' hd')
  have hle : (roundHalfEven n' d' : ℚ) + 1 ≤ roundHalfEven n d := by exact_mod_cast not_le.mp hlt
  have hq : (n : ℚ) / d = roundHalfEven n' d' + 1 / 2 := by linarith
  have hq' : (n' : ℚ) / d' = roundHalfEven n' d' + 1 / 2 := by linarith
  have he := roundHalfEven_half hd hq
  have he' := roundHalfEven_half hd' hq'
  omega

theorem le_roundHalfEven {n d k : Nat} (hd : 0 < d) (h : (k : ℚ) ≤ n / d) : k ≤ roundHalfEven n d := by
  have hk : (k : ℚ) / (1 : Nat) ≤ n / d := by simpa using h
  have := roundHalfEven_mono Nat.one_pos hd hk
  rwa [roundHalfEven_one] at this

theorem roundHalfEven_le {n d k : Nat} (hd : 0 < d) (h : (n : ℚ) / d ≤ k) : roundHalfEven n d ≤ k := by
  have hk : (n : ℚ) / d ≤ k / (1 : Nat) := by simpa using h
  have := roundHalfEven_mono hd Nat.one_pos hk
  rwa [roundHalfEven_one] at this

namespace Binary64

/-! ## Last places -/

theorem lt_two_zpow_log2 {n d : Nat} (hd : 0 < d) : (n : ℚ) / d < 2 ^ ((n.log2 : Int) - d.log2 + 1) := by
  have hd' : (0 : ℚ) < d := by exact_mod_cast hd
  have hn : (n : ℚ) < 2 ^ (n.log2 + 1) := by exact_mod_cast Nat.lt_log2_self
  have hl : (2 : ℚ) ^ d.log2 ≤ d := by exact_mod_cast Nat.log2_self_le hd.ne'
  rw [div_lt_iff₀ hd']
  calc (n : ℚ) < 2 ^ (n.log2 + 1) := hn
    _ = 2 ^ ((n.log2 : Int) - d.log2 + 1) * 2 ^ d.log2 := by
      rw [← zpow_natCast, ← zpow_natCast, ← zpow_add₀ two_ne_zero]
      congr 1
      push_cast
      ring
    _ ≤ 2 ^ ((n.log2 : Int) - d.log2 + 1) * d := by gcongr

theorem lt_two_zpow_floorLog2 {n d : Nat} (hd : 0 < d) : (n : ℚ) / d < 2 ^ (floorLog2 n d + 1) := by
  have hiff := two_zpow_le_iff (n := n) hd ((n.log2 : Int) - d.log2)
  unfold floorLog2
  dsimp only
  by_cases h : (2 : ℚ) ^ ((n.log2 : Int) - d.log2) ≤ n / d
  · rw [if_pos (hiff.mpr h)]
    exact lt_two_zpow_log2 hd
  · rw [if_neg fun hc => h (hiff.mp hc), sub_add_cancel]
    exact not_le.mp h

section
variable {n d n' d' : Nat}

theorem floorLog2_mono (hn : 0 < n) (hd : 0 < d) (hd' : 0 < d') (h : (n : ℚ) / d ≤ n' / d') :
    floorLog2 n d ≤ floorLog2 n' d' := by
  have hlt := (two_zpow_floorLog2_le hn hd).trans_lt (h.trans_lt (lt_two_zpow_floorLog2 hd'))
  have := (zpow_lt_zpow_iff_right₀ one_lt_two).mp hlt
  omega

/-! ## To a double -/

theorem roundScaled_mono (hd : 0 < d) (hd' : 0 < d') (e : Int) (h : (n : ℚ) / d ≤ n' / d') :
    roundScaled n d e ≤ roundScaled n' d' e := by
  obtain ⟨p, q, hq, hr, hv⟩ := exists_roundScaled_eq n hd e
  obtain ⟨p', q', hq', hr', hv'⟩ := exists_roundScaled_eq n' hd' e
  rw [hr, hr']
  apply roundHalfEven_mono hq hq'
  rw [hv, hv']
  gcongr

theorem roundScaled_le {k : Nat} (hd : 0 < d) {e : Int} (h : (n : ℚ) / d ≤ k * 2 ^ e) : roundScaled n d e ≤ k := by
  obtain ⟨p, q, hq, hr, hv⟩ := exists_roundScaled_eq n hd e
  rw [hr]
  apply roundHalfEven_le hq
  rwa [hv, div_le_iff₀ (by positivity)]

theorem le_roundScaled {k : Nat} (hd : 0 < d) {e : Int} (h : (k : ℚ) * 2 ^ e ≤ n / d) : k ≤ roundScaled n d e := by
  obtain ⟨p, q, hq, hr, hv⟩ := exists_roundScaled_eq n hd e
  rw [hr]
  apply le_roundHalfEven hq
  rwa [hv, le_div_iff₀ (by positivity)]

theorem roundedValue_nonneg (n d : Nat) : 0 ≤ roundedValue n d := by
  unfold roundedValue
  positivity

theorem two_zpow_lastPlace_add (n d k : Nat) :
    (2 : ℚ) ^ (lastPlace n d + k) = (2 ^ k : Nat) * 2 ^ lastPlace n d := by
  rw [zpow_add₀ two_ne_zero, mul_comm, zpow_natCast]
  push_cast
  rfl

theorem roundScaled_le_two_pow (hd : 0 < d) : roundScaled n d (lastPlace n d) ≤ 2 ^ 53 := by
  have hlast : floorLog2 n d + 1 ≤ lastPlace n d + (53 : Nat) := by
    unfold lastPlace
    omega
  have hlt := (lt_two_zpow_floorLog2 hd).trans_le (zpow_le_zpow_right₀ (one_le_two (α := ℚ)) hlast)
  rw [two_zpow_lastPlace_add] at hlt
  exact roundScaled_le hd hlt.le

/-- Above the least exponent a quotient reaches the power of two at its leading place, and so does the significand. -/
theorem two_pow_le_roundScaled (hn : 0 < n) (hd : 0 < d) (h : minExponent < lastPlace n d) :
    2 ^ 52 ≤ roundScaled n d (lastPlace n d) := by
  have hlast : floorLog2 n d = lastPlace n d + (52 : Nat) := by
    unfold lastPlace at h ⊢
    omega
  have hle := two_zpow_floorLog2_le hn hd
  rw [hlast, two_zpow_lastPlace_add] at hle
  exact le_roundScaled hd hle

theorem roundedValue_le (hd : 0 < d) : roundedValue n d ≤ 2 ^ (lastPlace n d + (53 : Nat)) := by
  have := roundScaled_le_two_pow (n := n) hd
  rw [two_zpow_lastPlace_add]
  unfold roundedValue
  gcongr

theorem le_roundedValue (hn : 0 < n) (hd : 0 < d) (h : minExponent < lastPlace n d) :
    2 ^ (lastPlace n d + (52 : Nat)) ≤ roundedValue n d := by
  have := two_pow_le_roundScaled hn hd h
  rw [two_zpow_lastPlace_add]
  unfold roundedValue
  gcongr

theorem roundedValue_mono (hd : 0 < d) (hd' : 0 < d') (h : (n : ℚ) / d ≤ n' / d') :
    roundedValue n d ≤ roundedValue n' d' := by
  rcases Nat.eq_zero_or_pos n with rfl | hn
  · rw [roundedValue_zero hd]
    exact roundedValue_nonneg n' d'
  · have hpos : (0 : ℚ) < n' / d' :=
      (div_pos (Nat.cast_pos.mpr hn) (Nat.cast_pos.mpr hd)).trans_le h
    have hn' : 0 < n' := by
      apply Nat.pos_of_ne_zero
      rintro rfl
      simp at hpos
    have hlog := floorLog2_mono hn hd hd' h
    have hlast : lastPlace n d ≤ lastPlace n' d' := by
      unfold lastPlace
      omega
    rcases hlast.eq_or_lt with he | hlt
    · have := roundScaled_mono hd hd' (lastPlace n d) h
      unfold roundedValue
      rw [← he]
      gcongr
    · have hmin : minExponent < lastPlace n' d' := (le_max_left _ _).trans_lt hlt
      calc roundedValue n d ≤ 2 ^ (lastPlace n d + (53 : Nat)) := roundedValue_le hd
        _ ≤ 2 ^ (lastPlace n' d' + (52 : Nat)) := zpow_le_zpow_right₀ one_le_two (by omega)
        _ ≤ roundedValue n' d' := le_roundedValue hn' hd' hmin

end

/-! ## The form of doubles -/

def Canonical : Binary64 → Prop
  | finite _ s e => s < 2 ^ 53 ∧ (2 ^ 52 ≤ s ∨ e = minExponent) ∧ minExponent ≤ e ∧ e ≤ maxExponent
  | _ => True

instance : DecidablePred Canonical := fun x =>
  match x with
  | nan | infinite _ => isTrue trivial
  | finite _ s e =>
    inferInstanceAs (Decidable (s < 2 ^ 53 ∧ (2 ^ 52 ≤ s ∨ e = minExponent) ∧ minExponent ≤ e ∧ e ≤ maxExponent))

theorem canonical_ofRatio (negative : Bool) (n : Nat) {d : Nat} (hd : 0 < d) : (ofRatio negative n d).Canonical := by
  unfold ofRatio
  split
  · exact ⟨by decide, .inr rfl, le_rfl, by decide⟩
  · rename_i hn
    have hmin : minExponent ≤ lastPlace n d := le_max_left _ _
    have hle : roundScaled n d (lastPlace n d) ≤ 2 ^ 53 := roundScaled_le_two_pow hd
    have hge : 2 ^ 52 ≤ roundScaled n d (lastPlace n d) ∨ lastPlace n d = minExponent := by
      rcases hmin.eq_or_lt with he | hlt
      · exact .inr he.symm
      · exact .inl (two_pow_le_roundScaled (Nat.pos_of_ne_zero hn) hd hlt)
    unfold lastPlace at hmin hle hge
    generalize max minExponent (floorLog2 n d - 52) = e at hmin hle hge
    dsimp only
    split_ifs with hs he he
    · exact ⟨by decide, .inl le_rfl, by omega, by omega⟩
    · trivial
    · trivial
    · exact ⟨lt_of_le_of_ne hle hs, hge, hmin, not_lt.mp he⟩

end Binary64

end RemoteCall
