import ShareStreaks.Binary64.Rounding

/-!
# Rounding a quotient

`nearestMagnitude` is given a quotient as two natural numbers.  What it answers depends on the
quotient alone (`nearestMagnitude_mul_right`), and a magnitude's own value rounds to the magnitude
(`nearestMagnitude_units`).  At both ends of the range the answer is fixed: from `2^2099` units on
it is infinity, and below half a unit it is zero.  In between a greater quotient never gives a
smaller answer (`nearestMagnitude_mono`), also where the grid on which it is rounded becomes coarser.

The values of the magnitudes lie on such grids themselves, the multiples of `2^k` units with a factor
up to `2^53`; what is the end of one is a point of the next (`units_grid`, `exists_grid`).
-/

set_option autoImplicit false

namespace ShareStreaks
namespace Binary64

/-! ## To a whole number -/

theorem roundHalfEven_mul_right (num den : Nat) {c : Nat} (hc : 0 < c) :
    roundHalfEven (num * c) (den * c) = roundHalfEven num den := by
  simp only [roundHalfEven]
  rw [Nat.mul_div_mul_right _ _ hc, Nat.mul_mod_mul_right, ← Nat.mul_assoc]
  simp only [Nat.mul_lt_mul_right hc]

theorem roundHalfEven_mul_self (n : Nat) {den : Nat} (h : 0 < den) :
    roundHalfEven (n * den) den = n := by
  simp only [roundHalfEven]
  rw [Nat.mul_div_cancel _ h, Nat.mul_mod_left, Nat.mul_zero, if_pos h]

theorem roundHalfEven_of_two_mul_lt {num den : Nat} (h : 2 * num < den) :
    roundHalfEven num den = 0 := by
  simp only [roundHalfEven]
  rw [Nat.div_eq_of_lt (by omega), Nat.mod_eq_of_lt (by omega), if_pos h]

/-! ## Grids -/

/-- The magnitudes from `k * 2^52` on are the factors of `2^k`, up to `2^53`. -/
theorem units_grid {k n : Nat} (hk : k = 0 ∨ 2 ^ 52 ≤ n) (hn : n ≤ 2 ^ 53) :
    units (k * 2 ^ 52 + n) = n * 2 ^ k := by
  rw [units]
  split
  · obtain rfl : k = 0 := by omega
    rw [Nat.zero_mul, Nat.zero_add, Nat.pow_zero, Nat.mul_one]
  · rcases Nat.eq_or_lt_of_le hn with rfl | hlt
    -- the end of the grid, which is the beginning of the next
    · rw [show (k * 2 ^ 52 + 2 ^ 53) % 2 ^ 52 = 0 by omega,
        show (k * 2 ^ 52 + 2 ^ 53) / 2 ^ 52 - 1 = k + 1 by omega, Nat.pow_succ]
      omega
    · rw [show (k * 2 ^ 52 + n) % 2 ^ 52 = n - 2 ^ 52 by omega,
        show (k * 2 ^ 52 + n) / 2 ^ 52 - 1 = k by omega, show 2 ^ 52 + (n - 2 ^ 52) = n by omega]

/-- Every magnitude lies on a grid, before its end. -/
theorem exists_grid (m : Nat) : ∃ k n, m = k * 2 ^ 52 + n ∧ (k = 0 ∨ 2 ^ 52 ≤ n) ∧ n < 2 ^ 53 := by
  rcases Nat.lt_or_ge m (2 ^ 53) with h | h
  · exact ⟨0, m, by omega, .inl rfl, h⟩
  · exact ⟨m / 2 ^ 52 - 1, 2 ^ 52 + m % 2 ^ 52, by omega, .inr (by omega), by omega⟩

theorem units_lt_units_succ (m : Nat) : units m < units (m + 1) := by
  obtain ⟨k, n, rfl, hk, hn⟩ := exists_grid m
  rw [Nat.add_assoc, units_grid hk (by omega), units_grid (by omega) (by omega)]
  exact Nat.mul_lt_mul_of_pos_right (Nat.lt_succ_self n) (Nat.two_pow_pos k)

/-! ## To a magnitude -/

/-- Only the quotient counts. -/
theorem nearestMagnitude_mul_right (num den : Nat) {c : Nat} (hc : 0 < c) :
    nearestMagnitude (num * c) (den * c) = nearestMagnitude num den := by
  simp only [nearestMagnitude]
  rw [Nat.mul_div_mul_right _ _ hc, Nat.mul_right_comm den c, roundHalfEven_mul_right _ _ hc]

theorem log2_units {m : Nat} (h : 2 ^ 52 ≤ m) : (units m).log2 = 52 + (m / 2 ^ 52 - 1) := by
  rw [units, if_neg (by omega)]
  have hf : m % 2 ^ 52 < 2 ^ 52 := Nat.mod_lt _ (by decide)
  generalize m % 2 ^ 52 = f at hf ⊢
  generalize m / 2 ^ 52 - 1 = e
  have hpos : 0 < 2 ^ e := Nat.two_pow_pos e
  have hlow : 2 ^ (52 + e) ≤ (2 ^ 52 + f) * 2 ^ e := by
    rw [Nat.pow_add]
    exact Nat.mul_le_mul_right _ (Nat.le_add_right _ _)
  have hhigh : (2 ^ 52 + f) * 2 ^ e < 2 ^ (52 + e + 1) := by
    rw [show 52 + e + 1 = 53 + e by omega, Nat.pow_add 2 53]
    exact Nat.mul_lt_mul_of_pos_right (by omega) hpos
  exact (Nat.log2_eq_iff (by omega)).2 ⟨hlow, hhigh⟩

theorem log2_units_lt {m : Nat} (h : m < infinityMagnitude) : (units m).log2 < 2098 := by
  rcases Nat.lt_or_ge m (2 ^ 52) with hm | hm
  · rw [units, if_pos hm]
    by_cases h0 : m = 0
    · rw [h0]; decide
    · have hlt := (Nat.log2_lt h0).2 hm
      omega
  · rw [log2_units hm]
    have hdiv : m / 2 ^ 52 < 2047 := (Nat.div_lt_iff_lt_mul (Nat.two_pow_pos 52)).2 h
    omega

/-- **Every number is nearest to itself**, and infinity to the first value that is too large. -/
theorem nearestMagnitude_units {m : Nat} (h : m ≤ infinityMagnitude) :
    nearestMagnitude (units m) 1 = m := by
  simp only [nearestMagnitude]
  rw [Nat.div_one, Nat.one_mul]
  rcases Nat.lt_or_ge m (2 ^ 52) with hm | hm
  · have hunits : units m = m := by rw [units, if_pos hm]
    have hlog : m.log2 - 52 = 0 := by
      by_cases h0 : m = 0
      · rw [h0]; decide
      · have hlt := (Nat.log2_lt h0).2 hm
        omega
    have hround : roundHalfEven (m * 1) 1 = m := roundHalfEven_mul_self m (by decide)
    rw [Nat.mul_one] at hround
    rw [hunits, hlog, Nat.zero_mul, Nat.zero_add, Nat.pow_zero, hround]
    exact Nat.min_eq_left h
  · rw [log2_units hm, Nat.add_sub_cancel_left, units, if_neg (by omega),
      roundHalfEven_mul_self _ (Nat.two_pow_pos _)]
    have hdiv : 1 ≤ m / 2 ^ 52 := (Nat.one_le_div_iff (by decide)).2 hm
    have hsplit : (m / 2 ^ 52 - 1) * 2 ^ 52 + (2 ^ 52 + m % 2 ^ 52) = m := by
      have := Nat.div_add_mod m (2 ^ 52)
      rw [Nat.sub_mul]
      omega
    rw [hsplit]
    exact Nat.min_eq_left h

theorem nearestMagnitude_of_le {num den e : Nat} (he : 2099 ≤ e) (h : 2 ^ e ≤ num / den) :
    nearestMagnitude num den = infinityMagnitude := by
  simp only [nearestMagnitude]
  have hpos : 0 < num / den := Nat.lt_of_lt_of_le (Nat.two_pow_pos e) h
  have hlog : e ≤ (num / den).log2 := (Nat.le_log2 (Nat.ne_of_gt hpos)).2 h
  refine Nat.min_eq_right ?_
  have hmul : 2047 * 2 ^ 52 ≤ ((num / den).log2 - 52) * 2 ^ 52 :=
    Nat.mul_le_mul_right _ (by omega)
  exact Nat.le_trans hmul (Nat.le_add_right _ _)

theorem nearestMagnitude_of_two_mul_lt {num den : Nat} (h : 2 * num < den) :
    nearestMagnitude num den = 0 := by
  have hdiv : num / den = 0 := Nat.div_eq_of_lt (by omega)
  simp only [nearestMagnitude]
  rw [hdiv, show Nat.log2 0 - 52 = 0 by decide, Nat.pow_zero, Nat.mul_one,
    roundHalfEven_of_two_mul_lt h]
  rfl

/-! ## In order -/

theorem roundHalfEven_mono {a b : Nat} (h : a ≤ b) (den : Nat) :
    roundHalfEven a den ≤ roundHalfEven b den := by
  have hdiv : a / den ≤ b / den := Nat.div_le_div_right h
  have ha := Nat.div_add_mod a den
  have hb := Nat.div_add_mod b den
  simp only [roundHalfEven]
  rcases Nat.eq_or_lt_of_le hdiv with heq | hlt
  -- with the same whole part, the remainders are in order
  · rw [heq] at ha ⊢
    generalize den * (b / den) = whole at ha hb
    split <;> split <;> (try split) <;> (try split) <;> omega
  -- otherwise the first is rounded up to the whole part of the second at most
  · split <;> split <;> (try split) <;> (try split) <;> omega

theorem roundHalfEven_le {num den c : Nat} (hden : 0 < den) (h : num ≤ c * den) :
    roundHalfEven num den ≤ c :=
  Nat.le_trans (roundHalfEven_mono h den) (Nat.le_of_eq (roundHalfEven_mul_self c hden))

theorem le_roundHalfEven {num den c : Nat} (hden : 0 < den) (h : c * den ≤ num) :
    c ≤ roundHalfEven num den :=
  Nat.le_trans (Nat.le_of_eq (roundHalfEven_mul_self c hden).symm) (roundHalfEven_mono h den)

/-- Rounded on the grid that belongs to it, a quotient has a factor of `2^53` at most. -/
theorem roundHalfEven_le_of_log2_le {num den k : Nat} (hden : 0 < den)
    (h : (num / den).log2 ≤ 52 + k) : roundHalfEven num (den * 2 ^ k) ≤ 2 ^ 53 := by
  have hlt : num / den < 2 ^ (52 + k + 1) :=
    Nat.lt_of_lt_of_le Nat.lt_log2_self (Nat.pow_le_pow_right (by decide) (by omega))
  have hnum : num < 2 ^ (52 + k + 1) * den := (Nat.div_lt_iff_lt_mul hden).1 hlt
  refine roundHalfEven_le (Nat.mul_pos hden (Nat.two_pow_pos k)) (Nat.le_of_lt ?_)
  rw [show 52 + k + 1 = 53 + k by omega, Nat.pow_add, Nat.mul_assoc, Nat.mul_comm (2 ^ k)] at hnum
  exact hnum

/-- The first point of the grid is not past the quotient, unless the grid is the finest. -/
theorem two_pow_mul_le_of_le_log2 {num den k : Nat} (hden : 0 < den)
    (h : 52 + k ≤ (num / den).log2) : 2 ^ 52 * (den * 2 ^ k) ≤ num := by
  have hpos : num / den ≠ 0 := by
    intro hzero
    rw [hzero, Nat.log2_zero] at h
    omega
  have hle : 2 ^ (52 + k) ≤ num / den := (Nat.le_log2 hpos).1 h
  have hnum : 2 ^ (52 + k) * den ≤ num := (Nat.le_div_iff_mul_le hden).1 hle
  rw [Nat.pow_add, Nat.mul_assoc, Nat.mul_comm (2 ^ k)] at hnum
  exact hnum

/-- And of `2^52` at least, unless it is a whole number of units. -/
theorem le_roundHalfEven_of_le_log2 {num den k : Nat} (hden : 0 < den)
    (h : 52 + k ≤ (num / den).log2) : 2 ^ 52 ≤ roundHalfEven num (den * 2 ^ k) :=
  le_roundHalfEven (Nat.mul_pos hden (Nat.two_pow_pos k)) (two_pow_mul_le_of_le_log2 hden h)

/-- **Rounding keeps the order** of two quotients with one denominator. -/
theorem nearestMagnitude_mono_left {a b den : Nat} (hden : 0 < den) (h : a ≤ b) :
    nearestMagnitude a den ≤ nearestMagnitude b den := by
  have hlog : (a / den).log2 ≤ (b / den).log2 := by
    by_cases hzero : a / den = 0
    · rw [hzero, Nat.log2_zero]
      exact Nat.zero_le _
    · have hle : a / den ≤ b / den := Nat.div_le_div_right h
      have hpos : 0 < b / den := Nat.lt_of_lt_of_le (Nat.pos_of_ne_zero hzero) hle
      exact (Nat.le_log2 (Nat.ne_of_gt hpos)).2 (Nat.le_trans (Nat.log2_self_le hzero) hle)
  simp only [nearestMagnitude]
  refine (Nat.le_min).2 ⟨Nat.le_trans (Nat.min_le_left _ _) ?_, Nat.min_le_right _ _⟩
  generalize hk : (a / den).log2 - 52 = k
  generalize hl : (b / den).log2 - 52 = l
  rcases Nat.eq_or_lt_of_le (show k ≤ l by omega) with rfl | hlt
  · exact Nat.add_le_add_left (roundHalfEven_mono h _) _
  -- the end of one grid is the beginning of the next
  · have hupper := roundHalfEven_le_of_log2_le (k := k) hden (show (a / den).log2 ≤ 52 + k by omega)
    have hlower := le_roundHalfEven_of_le_log2 (k := l) hden (show 52 + l ≤ (b / den).log2 by omega)
    have hgrid : (k + 1) * 2 ^ 52 ≤ l * 2 ^ 52 := Nat.mul_le_mul_right _ hlt
    omega

/-- **Rounding keeps the order of quotients.** -/
theorem nearestMagnitude_mono {a b den den' : Nat} (hden : 0 < den) (hden' : 0 < den')
    (h : a * den' ≤ b * den) : nearestMagnitude a den ≤ nearestMagnitude b den' := by
  have hmono := nearestMagnitude_mono_left (Nat.mul_pos hden hden') h
  rw [nearestMagnitude_mul_right a den hden', Nat.mul_comm den den',
    nearestMagnitude_mul_right b den' hden] at hmono
  exact hmono

/-- The next magnitude has at most twice the value. -/
theorem units_succ_le {m : Nat} (h : 0 < m) : units (m + 1) ≤ 2 * units m := by
  obtain ⟨k, n, rfl, hk, hn⟩ := exists_grid m
  rw [Nat.add_assoc, units_grid hk (by omega), units_grid (by omega) (by omega), ← Nat.mul_assoc]
  exact Nat.mul_le_mul_right _ (by omega)

/-- Twice the value of a number is past the number. -/
theorem lt_nearestMagnitude_of_two_mul_units_le {m num den : Nat} (hm : 0 < m)
    (hfinite : m < infinityMagnitude) (hden : 0 < den) (h : 2 * units m * den ≤ num) :
    m < nearestMagnitude num den := by
  have hle : units (m + 1) * den ≤ num * 1 := by
    rw [Nat.mul_one]
    exact Nat.le_trans (Nat.mul_le_mul_right _ (units_succ_le hm)) h
  have hmono := nearestMagnitude_mono Nat.one_pos hden hle
  rwa [nearestMagnitude_units (by omega)] at hmono

/-- A unit is a power of one half. -/
theorem one_eq_two_pow : ∃ n, n = 1074 ∧ one = 2 ^ n := ⟨1074, rfl, by rw [one]⟩

end Binary64
end ShareStreaks
