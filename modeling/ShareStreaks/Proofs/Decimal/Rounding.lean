import ShareStreaks.Decimal.Shortest
import ShareStreaks.Proofs.Binary64.Rounding

/-!
# Rounding a decimal

The exponent of a decimal may be anything, and `Decimal.nearestMagnitude` settles the far ends by
its size.  These shortcuts change nothing (`nearestMagnitude_eq`): the answer is that of rounding
the quotient.  So it depends on the number alone, and zeros can be moved from the coefficient to the
exponent (`nearestMagnitude_shift`).

What `Decimal.shortest` finds reads back as the magnitude it was asked for: a decimal on a grid is
taken only if it does, and the search ends at the exact value at last.
-/

set_option autoImplicit false

namespace ShareStreaks
namespace Decimal

/-! ## Without shortcuts -/

theorem two_pow_le_ten_pow (n : Nat) : 2 ^ (3 * n) ≤ 10 ^ n := by
  rw [Nat.pow_mul]
  exact Nat.pow_le_pow_left (by decide) n

/-- An exponent this large is past the largest number, whatever the coefficient. -/
theorem two_pow_le_ratio {d : Decimal} (hc : d.coefficient ≠ 0) (he : 400 < d.exponent) :
    ∃ n, 2099 ≤ n ∧ 2 ^ n ≤ d.ratio.1 / d.ratio.2 := by
  obtain ⟨n, hn, hone⟩ := Binary64.one_eq_two_pow
  refine ⟨3 * d.exponent.toNat + n, by omega, ?_⟩
  simp only [ratio]
  rw [if_pos (by omega), Nat.div_one, hone, Nat.pow_add]
  refine Nat.mul_le_mul_right _ (Nat.le_trans (two_pow_le_ten_pow _) ?_)
  exact Nat.le_mul_of_pos_left _ (Nat.pos_of_ne_zero hc)

/-- An exponent this small leaves less than half a unit: with three binary digits for each decimal
one, the denominator outgrows the coefficient. -/
theorem two_mul_ratio_lt {d : Decimal} (he : d.exponent + d.coefficient.log2 < -400) :
    2 * d.ratio.1 < d.ratio.2 := by
  obtain ⟨n, hn, hone⟩ := Binary64.one_eq_two_pow
  simp only [ratio]
  rw [if_neg (by omega), hone]
  calc 2 * (d.coefficient * 2 ^ n) = d.coefficient * 2 ^ (n + 1) := by
        rw [Nat.pow_succ, Nat.mul_comm 2, Nat.mul_assoc]
    _ < 2 ^ (d.coefficient.log2 + 1) * 2 ^ (n + 1) :=
        Nat.mul_lt_mul_of_pos_right Nat.lt_log2_self (Nat.two_pow_pos _)
    _ = 2 ^ (d.coefficient.log2 + 1 + (n + 1)) := (Nat.pow_add _ _ _).symm
    _ ≤ 2 ^ (3 * (-d.exponent).toNat) := Nat.pow_le_pow_right (by decide) (by omega)
    _ ≤ 10 ^ (-d.exponent).toNat := two_pow_le_ten_pow _

theorem ratio_snd_pos (d : Decimal) : 0 < d.ratio.2 := by
  rw [ratio]
  split
  · exact Nat.one_pos
  · exact Nat.pow_pos (by decide)

/-- **The shortcuts change nothing.** -/
theorem nearestMagnitude_eq (d : Decimal) :
    d.nearestMagnitude = Binary64.nearestMagnitude d.ratio.1 d.ratio.2 := by
  rw [nearestMagnitude]
  split
  · rename_i hc
    have hratio : d.ratio.1 = 0 := by
      rw [ratio]
      split <;> simp only [hc, Nat.zero_mul]
    rw [hratio, Binary64.nearestMagnitude_of_two_mul_lt (ratio_snd_pos d)]
  · rename_i hc
    split
    · rename_i he
      obtain ⟨n, hn, hle⟩ := two_pow_le_ratio hc he
      rw [Binary64.nearestMagnitude_of_le hn hle]
    · split
      · rename_i he
        rw [Binary64.nearestMagnitude_of_two_mul_lt (two_mul_ratio_lt he)]
      · rfl

/-! ## The same number -/

/-- Any way to write the exponent as a difference gives the same quotient. -/
theorem nearestMagnitude_sub (c p q : Nat) :
    nearestMagnitude ⟨c, (p : Int) - q⟩
      = Binary64.nearestMagnitude (c * 10 ^ p * Binary64.one) (10 ^ q) := by
  rw [nearestMagnitude_eq]
  simp only [ratio]
  rcases Nat.le_total q p with h | h
  · obtain ⟨r, rfl⟩ : ∃ r, p = r + q := ⟨p - q, by omega⟩
    have hscale := Binary64.nearestMagnitude_mul_right (c * 10 ^ r * Binary64.one) 1
      (c := 10 ^ q) (Nat.pow_pos (by decide))
    rw [Nat.one_mul, Nat.mul_right_comm, Nat.mul_assoc c, ← Nat.pow_add] at hscale
    rw [hscale, if_pos (by omega), show ((r + q : Nat) - q : Int).toNat = r by omega]
  · obtain ⟨r, rfl⟩ : ∃ r, q = r + p := ⟨q - p, by omega⟩
    have hscale := Binary64.nearestMagnitude_mul_right (c * Binary64.one) (10 ^ r)
      (c := 10 ^ p) (Nat.pow_pos (by decide))
    rw [Nat.mul_right_comm, ← Nat.pow_add] at hscale
    rw [hscale]
    split
    · obtain rfl : r = 0 := by omega
      rw [show ((p : Int) - (0 + p : Nat)).toNat = 0 by omega, Nat.pow_zero, Nat.mul_one]
    · rw [show (-((p : Int) - (r + p : Nat))).toNat = r by omega]

/-- **Zeros at the end of the coefficient can go to the exponent.** -/
theorem nearestMagnitude_shift (c n : Nat) (e : Int) :
    nearestMagnitude ⟨c * 10 ^ n, e⟩ = nearestMagnitude ⟨c, e + n⟩ := by
  obtain ⟨p, q, rfl⟩ : ∃ p q : Nat, e = p - q := ⟨e.toNat, (-e).toNat, by omega⟩
  rw [show (p : Int) - q + n = (n + p : Nat) - q by omega, nearestMagnitude_sub,
    nearestMagnitude_sub, Nat.mul_assoc c, ← Nat.pow_add]

/-! ## The shortest decimal -/

/-- The exact value of a magnitude: enough fives make every unit a power of ten. -/
theorem nearestMagnitude_five_pow {m n : Nat} (hn : Binary64.one = 2 ^ n)
    (h : m < Binary64.infinityMagnitude) :
    nearestMagnitude ⟨Binary64.units m * 5 ^ n, (0 : Nat) - n⟩ = m := by
  have hscale := Binary64.nearestMagnitude_mul_right (Binary64.units m) 1
    (c := 10 ^ n) (Nat.pow_pos (by decide))
  rw [Nat.one_mul, Binary64.nearestMagnitude_units (Nat.le_of_lt h)] at hscale
  rw [nearestMagnitude_sub, Nat.pow_zero, Nat.mul_one, hn, Nat.mul_assoc, ← Nat.mul_pow]
  exact hscale

theorem nearestMagnitude_exact {m : Nat} (h : m < Binary64.infinityMagnitude) :
    (exact m).nearestMagnitude = m :=
  nearestMagnitude_five_pow (n := 1074) (by rw [Binary64.one]) h

theorem nearestMagnitude_of_onGrid {tie : Tie} {m : Nat} {k : Int} {d : Decimal}
    (h : onGrid tie m k = some d) : d.nearestMagnitude = m := by
  simp only [onGrid] at h
  have hread {d' : Decimal} (hd : d'.readsAs m = true) (he : d' = d) : d.nearestMagnitude = m := by
    rw [readsAs, beq_iff_eq] at hd
    exact he ▸ hd
  split at h
  · rename_i hbelow
    split at h
    · rename_i habove
      rw [Bool.and_eq_true] at habove
      exact hread habove.1 (Option.some_inj.1 h)
    · exact hread hbelow (Option.some_inj.1 h)
  · split at h
    · rename_i habove
      exact hread habove (Option.some_inj.1 h)
    · exact absurd h (by simp)

theorem nearestMagnitude_firstOnGrids (tie : Tie) {m : Nat} (h : m < Binary64.infinityMagnitude)
    (fuel : Nat) (k : Int) : (firstOnGrids tie m fuel k).nearestMagnitude = m := by
  induction fuel generalizing k with
  | zero => exact nearestMagnitude_exact h
  | succ fuel ih =>
    rw [firstOnGrids]
    split
    · rename_i d hd
      exact nearestMagnitude_of_onGrid hd
    · exact ih _

/-- **The shortest decimal reads back.** -/
theorem nearestMagnitude_shortest (tie : Tie) {m : Nat} (h : m < Binary64.infinityMagnitude) :
    (shortest tie m).nearestMagnitude = m :=
  nearestMagnitude_firstOnGrids tie h _ _

end Decimal
end ShareStreaks
