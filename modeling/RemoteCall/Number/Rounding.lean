/-!
# Rounding a quotient to an integer

`roundHalfEven n d` is the integer nearest to `n / d`; when two are equally near it is the even one. An integer
rounds to itself, and the result is never further than half a unit from the quotient.
-/

namespace RemoteCall

/-- The integer nearest to `n / d`; of two that are equally near, the even one. -/
def roundHalfEven (n d : Nat) : Nat :=
  if 2 * (n % d) < d then n / d
  else if d < 2 * (n % d) then n / d + 1
  else n / d + n / d % 2

theorem roundHalfEven_mul (q : Nat) {d : Nat} (h : 0 < d) : roundHalfEven (q * d) d = q := by
  simp [roundHalfEven, Nat.mul_div_cancel q h, h]

theorem roundHalfEven_one (n : Nat) : roundHalfEven n 1 = n := by
  simpa using roundHalfEven_mul n Nat.one_pos

/-- The rounded quotient exceeds the quotient by at most half a unit. -/
theorem two_mul_roundHalfEven_le (n d : Nat) : 2 * (roundHalfEven n d * d) ≤ 2 * n + d := by
  have hn := Nat.div_add_mod' n d
  unfold roundHalfEven
  rcases Nat.mod_two_eq_zero_or_one (n / d) with h | h <;> split
  · omega
  · split
    · rw [Nat.add_mul]; omega
    · rw [h]; simp; omega
  · omega
  · split <;> (try rw [h]) <;> rw [Nat.add_mul] <;> omega

/-- The quotient exceeds the rounded quotient by at most half a unit. -/
theorem two_mul_le_roundHalfEven (n : Nat) {d : Nat} (hd : 0 < d) :
    2 * n ≤ 2 * (roundHalfEven n d * d) + d := by
  have hn := Nat.div_add_mod' n d
  have hlt := Nat.mod_lt n hd
  unfold roundHalfEven
  rcases Nat.mod_two_eq_zero_or_one (n / d) with h | h <;> split
  · omega
  · split
    · rw [Nat.add_mul]; omega
    · rw [h]; simp; omega
  · omega
  · split <;> (try rw [h]) <;> rw [Nat.add_mul] <;> omega

end RemoteCall
