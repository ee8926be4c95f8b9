import Mathlib.Algebra.Order.Field.Basic
import Mathlib.Algebra.Order.Field.Rat
import Mathlib.Tactic.Linarith
import ShareStreaks.Proofs.Decimal.Rounding

/-!
# The nearest number

What rounding a quotient gives can be said without any arithmetic of bits: of all magnitudes it is the
one whose value is nearest, and of two that are equally near the even one (`Binary64.IsNearest`).
Infinity takes part with the value `2^1024`, where the next number would be.  There is exactly one such
magnitude, and it is the one that the quotient is rounded to (`Binary64.isNearest_iff`); for a decimal
this is the number it is read as (`Decimal.isNearest_iff`).  From half a step past the largest finite
number on it is infinity (`Binary64.isNearest_infinity_iff`).

The distances are compared as whole numbers, the quotient being multiplied by its denominator.  On the
grid that the quotient is rounded on, no other point is as near (`Binary64.distance_roundHalfEven`); the
magnitudes below the grid are farther than its first point (`Binary64.distance_lt_or_eq`).
-/

set_option autoImplicit false

namespace ShareStreaks
namespace Binary64

/-! ## To a whole number -/

/-- A multiple lies on one of the two sides of another, or is the same. -/
theorem mul_side {c r : Nat} (h : c ≠ r) (den : Nat) :
    c * den + den ≤ r * den ∨ r * den + den ≤ c * den := by
  rcases Nat.lt_or_gt_of_ne h with hlt | hgt
  · exact .inl (Nat.succ_mul c den ▸ Nat.mul_le_mul_right den hlt)
  · exact .inr (Nat.succ_mul r den ▸ Nat.mul_le_mul_right den hgt)

/-- How far two whole numbers are apart. -/
def distance (a b : Nat) : Nat := ((a : Int) - b).natAbs

/-- **No other multiple of the denominator is as near**, unless there are two and the even one is
taken. -/
theorem distance_roundHalfEven {num den c : Nat} (hden : 0 < den)
    (hc : c ≠ roundHalfEven num den) :
    distance num (roundHalfEven num den * den) < distance num (c * den) ∨
      distance num (roundHalfEven num den * den) = distance num (c * den) ∧
        roundHalfEven num den % 2 = 0 := by
  have hside := mul_side hc den
  have hnum := Nat.div_add_mod num den
  have hrest := Nat.mod_lt num hden
  rw [Nat.mul_comm] at hnum
  revert hside
  simp only [roundHalfEven, distance]
  split
  · omega
  · split
    · rw [Nat.succ_mul]
      omega
    -- half way between two multiples: the even one is taken
    · rcases Nat.mod_two_eq_zero_or_one (num / den) with heven | hodd
      · rw [heven, Nat.add_zero]
        omega
      · rw [hodd, Nat.succ_mul]
        omega

/-! ## To a magnitude -/

theorem units_strictMono : StrictMono units := strictMono_nat_of_lt_succ units_lt_units_succ

/-- From the beginning of a grid on, all values lie on it. -/
theorem exists_units_eq_mul {k n : Nat} (h : k = 0 ∨ (k + 1) * 2 ^ 52 ≤ n) :
    ∃ c, units n = c * 2 ^ k := by
  obtain ⟨l, c, rfl, hl, hc⟩ := exists_grid n
  have hkl : k ≤ l := by omega
  refine ⟨c * 2 ^ (l - k), ?_⟩
  rw [units_grid hl (Nat.le_of_lt hc), Nat.mul_assoc, ← Nat.pow_add, Nat.sub_add_cancel hkl]

/-- **No other magnitude is as near**, also none past infinity, unless there are two and the even one is
taken. -/
theorem distance_lt_or_eq {num den k m n : Nat} (hden : 0 < den) (hk : (num / den).log2 - 52 = k)
    (hm : k * 2 ^ 52 + roundHalfEven num (den * 2 ^ k) = m) (hn : n ≠ m) :
    distance num (units m * den) < distance num (units n * den) ∨
      distance num (units m * den) = distance num (units n * den) ∧ m % 2 = 0 := by
  have hden' : 0 < den * 2 ^ k := Nat.mul_pos hden (Nat.two_pow_pos k)
  have hle := roundHalfEven_le_of_log2_le (k := k) hden (show (num / den).log2 ≤ 52 + k by omega)
  have hge : k = 0 ∨ 2 ^ 52 ≤ roundHalfEven num (den * 2 ^ k) := by
    rcases Nat.eq_zero_or_pos k with h | h
    · exact .inl h
    · exact .inr (le_roundHalfEven_of_le_log2 hden (by omega))
  have hmultiple (c : Nat) : c * 2 ^ k * den = c * (den * 2 ^ k) := by
    rw [Nat.mul_assoc, Nat.mul_comm (2 ^ k)]
  have hunits : units m * den = roundHalfEven num (den * 2 ^ k) * (den * 2 ^ k) := by
    rw [← hm, units_grid hge hle, hmultiple]
  rw [hunits]
  by_cases hgrid : k = 0 ∨ (k + 1) * 2 ^ 52 ≤ n
  · obtain ⟨c, hc⟩ := exists_units_eq_mul hgrid
    have hne : c ≠ roundHalfEven num (den * 2 ^ k) := by
      rintro rfl
      refine hn (units_strictMono.injective ?_)
      rw [hc, ← hm, units_grid hge hle]
    rw [hc, hmultiple]
    exact (distance_roundHalfEven hden' hne).imp_right fun h => ⟨h.1, by omega⟩
  -- below the grid, the value is less than that of the first point, which is not past the quotient
  · have hbelow : units n * den < 2 ^ 52 * (den * 2 ^ k) := by
      have hlt := units_strictMono (show n < k * 2 ^ 52 + 2 ^ 52 by omega)
      rw [units_grid (.inr (Nat.le_refl _)) (by decide)] at hlt
      rw [← hmultiple]
      exact Nat.mul_lt_mul_of_pos_right hlt hden
    have hfirst : 2 ^ 52 * (den * 2 ^ k) ≤ num := two_pow_mul_le_of_le_log2 hden (by omega)
    by_cases hround : 2 ^ 52 = roundHalfEven num (den * 2 ^ k)
    · rw [← hround, distance, distance]
      omega
    · have hnear := distance_roundHalfEven hden' hround
      simp only [distance] at hnear ⊢
      omega

/-- Infinity is nearest to whatever lies past it. -/
theorem distance_nearestMagnitude {num den n : Nat} (hden : 0 < den) (hn : n ≤ infinityMagnitude)
    (hne : n ≠ nearestMagnitude num den) :
    distance num (units (nearestMagnitude num den) * den) < distance num (units n * den) ∨
      distance num (units (nearestMagnitude num den) * den) = distance num (units n * den) ∧
        nearestMagnitude num den % 2 = 0 := by
  simp only [nearestMagnitude] at hne ⊢
  generalize hk : (num / den).log2 - 52 = k at hne ⊢
  generalize hm : k * 2 ^ 52 + roundHalfEven num (den * 2 ^ k) = m at hne ⊢
  rcases Nat.lt_or_ge infinityMagnitude m with hlt | hge
  · rw [Nat.min_eq_right (Nat.le_of_lt hlt)] at hne ⊢
    have hnear := distance_lt_or_eq hden hk hm (Nat.ne_of_lt hlt)
    have hbelow : units n * den < units infinityMagnitude * den :=
      Nat.mul_lt_mul_of_pos_right (units_strictMono (Nat.lt_of_le_of_ne hn hne)) hden
    have habove : units infinityMagnitude * den < units m * den :=
      Nat.mul_lt_mul_of_pos_right (units_strictMono hlt) hden
    simp only [distance] at hnear ⊢
    omega
  · rw [Nat.min_eq_left hge] at hne ⊢
    exact distance_lt_or_eq hden hk hm hne

/-! ## The nearest value -/

/-- The value of a magnitude, which for infinity is `2^1024`. -/
def magnitudeValue (m : Nat) : ℚ := units m / one

/-- Every other magnitude is farther from the number, or it is as far and this one is even. -/
structure IsNearest (v : ℚ) (m : Nat) : Prop where
  le_infinity : m ≤ infinityMagnitude
  nearer : ∀ n ≤ infinityMagnitude, n ≠ m →
    |v - magnitudeValue m| < |v - magnitudeValue n| ∨
      |v - magnitudeValue m| = |v - magnitudeValue n| ∧ m % 2 = 0

theorem one_pos : (0 : ℚ) < one := by
  obtain ⟨n, -, hone⟩ := one_eq_two_pow
  rw [hone]
  exact Nat.cast_pos.2 (Nat.two_pow_pos n)

theorem magnitudeValue_strictMono : StrictMono magnitudeValue :=
  fun _ _ h => div_lt_div_of_pos_right (Nat.cast_lt.2 (units_strictMono h)) one_pos

theorem abs_sub_magnitudeValue {num den : Nat} (hden : 0 < den) (m : Nat) :
    |(num / den / one : ℚ) - magnitudeValue m| = distance num (units m * den) / (den * one) := by
  have hden' : (0 : ℚ) < den := Nat.cast_pos.2 hden
  have hdiff : (num / den / one : ℚ) - magnitudeValue m = (num - units m * den) / (den * one) := by
    rw [magnitudeValue, div_div, ← mul_div_mul_left (units m : ℚ) one hden'.ne', ← sub_div,
      mul_comm (den : ℚ) (units m)]
  rw [hdiff, abs_div, abs_of_pos (mul_pos hden' one_pos), distance, Nat.cast_natAbs, Int.cast_abs]
  push_cast
  rfl

theorem IsNearest.abs_sub_le {v : ℚ} {m n : Nat} (h : IsNearest v m) (hn : n ≤ infinityMagnitude) :
    |v - magnitudeValue m| ≤ |v - magnitudeValue n| := by
  by_cases hne : n = m
  · rw [hne]
  · rcases h.nearer n hn hne with hlt | ⟨heq, -⟩
    · exact hlt.le
    · exact heq.le

theorem IsNearest.even {v : ℚ} {m n : Nat} (h : IsNearest v m) (hn : n ≤ infinityMagnitude)
    (hne : n ≠ m) (heq : |v - magnitudeValue m| = |v - magnitudeValue n|) : m % 2 = 0 := by
  rcases h.nearer n hn hne with hlt | ⟨-, heven⟩
  · exact absurd heq hlt.ne
  · exact heven

/-- Which of two numbers is nearer depends on the side of their mean. -/
theorem abs_sub_le_abs_sub {a b v : ℚ} (h : a < b) :
    (|v - b| ≤ |v - a| ↔ a + b ≤ 2 * v) ∧ (|v - a| ≤ |v - b| ↔ 2 * v ≤ a + b) := by
  rcases abs_cases (v - b) with ⟨hb, hside⟩ | ⟨hb, hside⟩ <;>
    rcases abs_cases (v - a) with ⟨ha, hside'⟩ | ⟨ha, hside'⟩ <;>
    rw [ha, hb] <;> refine ⟨⟨fun hle => ?_, fun hle => ?_⟩, ⟨fun hle => ?_, fun hle => ?_⟩⟩ <;>
    linarith

/-- If the nearest were two magnitudes, both would be even, and the one after the first would be
nearer. -/
theorem IsNearest.le {v : ℚ} {m m' : Nat} (h : IsNearest v m) (h' : IsNearest v m') : m' ≤ m := by
  refine Nat.le_of_not_lt fun hlt => ?_
  have htie := le_antisymm (h.abs_sub_le h'.le_infinity) (h'.abs_sub_le h.le_infinity)
  have heven := h.even h'.le_infinity (Nat.ne_of_gt hlt) htie
  have heven' := h'.even h.le_infinity (Nat.ne_of_lt hlt) htie.symm
  have hnext : m + 1 ≤ infinityMagnitude := Nat.le_trans hlt h'.le_infinity
  have hbelow := magnitudeValue_strictMono (Nat.lt_succ_self m)
  have habove := magnitudeValue_strictMono (show m + 1 < m' by omega)
  have hfirst := (abs_sub_le_abs_sub hbelow).2.1 (h.abs_sub_le hnext)
  have hsecond := (abs_sub_le_abs_sub habove).1.1 (h'.abs_sub_le hnext)
  linarith

/-- **There is only one nearest magnitude.** -/
theorem IsNearest.eq {v : ℚ} {m m' : Nat} (h : IsNearest v m) (h' : IsNearest v m') : m = m' :=
  Nat.le_antisymm (h'.le h) (h.le h')

/-- **A quotient is rounded to the nearest number.** -/
theorem isNearest_iff {num den : Nat} (hden : 0 < den) {m : Nat} :
    IsNearest (num / den / one) m ↔ nearestMagnitude num den = m := by
  have hnearest : IsNearest (num / den / one) (nearestMagnitude num den) := by
    have hpos : (0 : ℚ) < den * one := mul_pos (Nat.cast_pos.2 hden) one_pos
    refine ⟨Nat.min_le_right _ _, fun n hn hne => ?_⟩
    rw [abs_sub_magnitudeValue hden, abs_sub_magnitudeValue hden, div_lt_div_iff_of_pos_right hpos,
      div_left_inj' hpos.ne', Nat.cast_lt, Nat.cast_inj]
    exact distance_nearestMagnitude hden hn hne
  exact ⟨hnearest.eq, fun h => h ▸ hnearest⟩

/-! ## Past the largest number -/

/-- The values on the last grid. -/
theorem magnitudeValue_last {n : Nat} (h : 2 ^ 52 ≤ n) (h' : n ≤ 2 ^ 53) :
    magnitudeValue (2045 * 2 ^ 52 + n) = 2 * n * 2 ^ 970 := by
  obtain ⟨q, hq, hone⟩ := one_eq_two_pow
  have hgrid {k e : Nat} (hk : k = e + 1 + q) : magnitudeValue (k * 2 ^ 52 + n) = 2 * n * 2 ^ e := by
    rw [magnitudeValue, units_grid (.inr h) h', hone, hk]
    push_cast
    rw [pow_add, ← mul_assoc, mul_div_cancel_right₀ _ (pow_ne_zero q two_ne_zero), pow_succ',
      ← mul_assoc, mul_comm (n : ℚ)]
  exact hgrid (by omega)

/-- **Infinity is nearest from half a step past the largest number on.** -/
theorem isNearest_infinity_iff {v : ℚ} :
    IsNearest v infinityMagnitude ↔ (2 ^ 54 - 1) * 2 ^ 970 ≤ v := by
  have hinfinity : magnitudeValue infinityMagnitude = 2 * (2 ^ 53 : Nat) * 2 ^ 970 := by
    rw [show infinityMagnitude = 2045 * 2 ^ 52 + 2 ^ 53 by decide]
    exact magnitudeValue_last (by decide) (Nat.le_refl _)
  have hlargest : magnitudeValue (infinityMagnitude - 1) = 2 * (2 ^ 53 - 1 : Nat) * 2 ^ 970 := by
    rw [show infinityMagnitude - 1 = 2045 * 2 ^ 52 + (2 ^ 53 - 1) by decide]
    exact magnitudeValue_last (by decide) (by decide)
  have hlt := magnitudeValue_strictMono (show infinityMagnitude - 1 < infinityMagnitude by decide)
  have hmid : magnitudeValue (infinityMagnitude - 1) + magnitudeValue infinityMagnitude =
      2 * ((2 ^ 54 - 1) * 2 ^ 970) := by
    rw [hinfinity, hlargest]
    generalize (2 : ℚ) ^ 970 = p
    norm_num
    linarith
  generalize ((2 : ℚ) ^ 54 - 1) * 2 ^ 970 = bound at hmid ⊢
  constructor
  · intro h
    have hle := (abs_sub_le_abs_sub hlt).1.1 (h.abs_sub_le (Nat.sub_le _ _))
    linarith
  · intro h
    refine ⟨Nat.le_refl _, fun n hn hne => ?_⟩
    have hn' : n < infinityMagnitude := Nat.lt_of_le_of_ne hn hne
    have hbelow := magnitudeValue_strictMono.monotone (Nat.le_sub_one_of_lt hn')
    have hle := (abs_sub_le_abs_sub (magnitudeValue_strictMono hn')).1.2
      (show _ ≤ 2 * v by linarith)
    exact hle.lt_or_eq.imp_right fun htie => ⟨htie, by decide⟩

end Binary64

/-! ## The nearest number to a decimal -/

namespace Decimal

/-- The number that a decimal is. -/
def toRat (d : Decimal) : ℚ := d.coefficient * 10 ^ d.exponent

theorem toRat_eq (d : Decimal) : d.toRat = d.ratio.1 / d.ratio.2 / Binary64.one := by
  have hone : (Binary64.one : ℚ) ≠ 0 := Binary64.one_pos.ne'
  rw [toRat, ratio]
  split
  · rename_i he
    obtain ⟨n, hn⟩ := Int.eq_ofNat_of_zero_le he
    rw [hn, Int.toNat_natCast, zpow_natCast]
    push_cast
    rw [div_one, mul_div_cancel_right₀ _ hone]
  · rename_i he
    obtain ⟨n, hn⟩ := Int.eq_ofNat_of_zero_le (show 0 ≤ -d.exponent by omega)
    rw [show d.exponent = -(n : Int) by omega, Int.neg_neg, Int.toNat_natCast, zpow_neg, zpow_natCast]
    push_cast
    rw [div_right_comm, mul_div_cancel_right₀ _ hone, div_eq_mul_inv]

/-- **A decimal is read as the nearest number.** -/
theorem isNearest_iff (d : Decimal) {m : Nat} :
    Binary64.IsNearest d.toRat m ↔ d.nearestMagnitude = m := by
  rw [toRat_eq, Binary64.isNearest_iff (ratio_snd_pos d), nearestMagnitude_eq]

end Decimal
end ShareStreaks
