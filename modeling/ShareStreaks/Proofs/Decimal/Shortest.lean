import ShareStreaks.Proofs.Decimal.ReadBack

/-!
# The shortest digits

`Decimal.shortest` tries grids from coarse to fine, and on each grid only the two decimals around the
number.  That this finds the fewest digits rests on the order being kept by rounding.

* If any decimal on a grid reads back, one of the two around the number does, for it lies between
  that decimal and the number (`Decimal.not_reads_of_onGrid_eq_none`).
* No decimal on a grid coarser than the first one reads back, since it is at least twice the number
  (`Decimal.not_reads_of_coarsest_lt`).
* So nothing on a grid coarser than that of the answer reads back (`Decimal.not_reads_of_lt`).  A
  decimal with fewer digits would have to lie on a finer grid below a power of ten, and the answer
  above it; the power of ten would read back as well, and it lies on a coarser grid.

`Significand.IsShortest` says what is found: the digits begin with one that is not zero, so that the
exponent is that of the number they stand for; they read back; and no decimal with fewer digits does.
-/

set_option autoImplicit false

namespace ShareStreaks

/-! ## Decimals in order -/

namespace Decimal

variable {m : Nat} {k : Int}

/-- On one grid the coefficients decide. -/
theorem nearestMagnitude_mono {a b : Nat} (k : Int) (h : a ≤ b) :
    nearestMagnitude ⟨a, k⟩ ≤ nearestMagnitude ⟨b, k⟩ := by
  rw [nearestMagnitude_eq, nearestMagnitude_eq]
  refine Binary64.nearestMagnitude_mono (ratio_snd_pos _) (ratio_snd_pos _) ?_
  simp only [ratio]
  split
  · exact Nat.mul_le_mul_right _ (Nat.mul_le_mul_right _ (Nat.mul_le_mul_right _ h))
  · exact Nat.mul_le_mul_right _ (Nat.mul_le_mul_right _ h)

/-- A decimal and a magnitude, both as multiples of the same fraction of a unit. -/
theorem ratio_eq (c m : Nat) (k : Int) :
    (⟨c, k⟩ : Decimal).ratio.1 = c * (gridRatio m k).2 ∧
      (gridRatio m k).1 = Binary64.units m * (⟨c, k⟩ : Decimal).ratio.2 := by
  simp only [ratio, gridRatio]
  split
  · rw [Nat.mul_one, Nat.mul_assoc, Nat.mul_comm (10 ^ _)]
    exact ⟨rfl, rfl⟩
  · dsimp only
    exact ⟨rfl, rfl⟩

theorem gridRatio_snd_pos (m : Nat) (k : Int) : 0 < (gridRatio m k).2 := by
  obtain ⟨n, -, hone⟩ := Binary64.one_eq_two_pow
  rw [gridRatio, hone]
  split
  · exact Nat.mul_pos (Nat.two_pow_pos n) (Nat.pow_pos (by decide))
  · exact Nat.two_pow_pos n

theorem nearestMagnitude_le_of_mul_le (hm : m < Binary64.infinityMagnitude) {c : Nat}
    (h : c * (gridRatio m k).2 ≤ (gridRatio m k).1) : nearestMagnitude ⟨c, k⟩ ≤ m := by
  obtain ⟨hc, hunits⟩ := ratio_eq c m k
  have hmono := Binary64.nearestMagnitude_mono (ratio_snd_pos ⟨c, k⟩) Nat.one_pos
    (show (⟨c, k⟩ : Decimal).ratio.1 * 1 ≤ Binary64.units m * (⟨c, k⟩ : Decimal).ratio.2 by
      rw [Nat.mul_one, hc, ← hunits]; exact h)
  rwa [← nearestMagnitude_eq, Binary64.nearestMagnitude_units (Nat.le_of_lt hm)] at hmono

theorem le_nearestMagnitude_of_le_mul (hm : m < Binary64.infinityMagnitude) {c : Nat}
    (h : (gridRatio m k).1 ≤ c * (gridRatio m k).2) : m ≤ nearestMagnitude ⟨c, k⟩ := by
  obtain ⟨hc, hunits⟩ := ratio_eq c m k
  have hmono := Binary64.nearestMagnitude_mono Nat.one_pos (ratio_snd_pos ⟨c, k⟩)
    (show Binary64.units m * (⟨c, k⟩ : Decimal).ratio.2 ≤ (⟨c, k⟩ : Decimal).ratio.1 * 1 by
      rw [Nat.mul_one, hc, ← hunits]; exact h)
  rwa [← nearestMagnitude_eq, Binary64.nearestMagnitude_units (Nat.le_of_lt hm)] at hmono

/-! ## Grids on which nothing reads back -/

theorem onGrid_eq_none {tie : Tie} (h : onGrid tie m k = none) :
    nearestMagnitude ⟨(gridRatio m k).1 / (gridRatio m k).2, k⟩ ≠ m ∧
      nearestMagnitude ⟨(gridRatio m k).1 / (gridRatio m k).2 + 1, k⟩ ≠ m := by
  simp only [onGrid] at h
  split at h
  · split at h <;> exact absurd h (by simp)
  · rename_i hbelow
    split at h
    · exact absurd h (by simp)
    · rename_i habove
      exact ⟨fun hread => hbelow (beq_iff_eq.2 hread), fun hread => habove (beq_iff_eq.2 hread)⟩

/-- Where neither of the two decimals around the number reads back, none does. -/
theorem not_reads_of_onGrid_eq_none {tie : Tie} (hm : m < Binary64.infinityMagnitude)
    (h : onGrid tie m k = none) (c : Nat) : nearestMagnitude ⟨c, k⟩ ≠ m := by
  obtain ⟨hbelow, habove⟩ := onGrid_eq_none h
  intro hread
  rcases Nat.lt_or_ge ((gridRatio m k).1 / (gridRatio m k).2) c with hlt | hge
  · have hle := nearestMagnitude_mono k (show (gridRatio m k).1 / (gridRatio m k).2 + 1 ≤ c from hlt)
    refine habove (Nat.le_antisymm (hread ▸ hle) (le_nearestMagnitude_of_le_mul hm (Nat.le_of_lt ?_)))
    exact (Nat.div_lt_iff_lt_mul (gridRatio_snd_pos m k)).1 (Nat.lt_succ_self _)
  · have hle := nearestMagnitude_mono k hge
    refine hbelow (Nat.le_antisymm (nearestMagnitude_le_of_mul_le hm ?_) (hread ▸ hle))
    exact Nat.div_mul_le_self _ _

/-- Where a power of one base is at most a power of another, so are powers in the same proportion. -/
theorem pow_le_pow_of_pow_le {x y p q a n : Nat} (hq : q ≠ 0) (hy : 0 < y) (hbase : x ^ q ≤ y ^ p)
    (h : p * n ≤ a * q) : x ^ n ≤ y ^ a := by
  refine (Nat.pow_le_pow_iff_left hq).1 ?_
  calc (x ^ n) ^ q = (x ^ q) ^ n := by rw [← Nat.pow_mul, ← Nat.pow_mul, Nat.mul_comm]
    _ ≤ (y ^ p) ^ n := Nat.pow_le_pow_left hbase n
    _ = y ^ (p * n) := (Nat.pow_mul ..).symm
    _ ≤ y ^ (a * q) := Nat.pow_le_pow_right hy h
    _ = (y ^ a) ^ q := Nat.pow_mul ..

/-- The logarithm of two lies just below `0.30103`. -/
theorem two_pow_le_ten_pow_of_le {a n : Nat} (hn : n < 1100) (h : 30103 * n ≤ 100000 * a) :
    2 ^ n ≤ 10 ^ a := by
  have hbase : (2 ^ 97) ^ 5 ≤ 10 ^ 146 := by decide
  obtain ⟨q, hq⟩ : ∃ q, q = 97 * 5 := ⟨_, rfl⟩
  rw [← Nat.pow_mul, ← hq] at hbase
  exact pow_le_pow_of_pow_le (by omega) (by decide) hbase (by rw [hq]; omega)

/-- But not far below it. -/
theorem ten_pow_le_two_pow_of_le {b p : Nat} (hp : p < 1100) (h : 100000 * b ≤ 30103 * p) :
    10 ^ b ≤ 2 ^ (p + 1) :=
  pow_le_pow_of_pow_le (p := 196) (q := 59) (by decide) (by decide) (by decide) (by omega)

/-- Above the coarsest grid that is tried, every point but zero is at least twice the number. -/
theorem two_mul_units_le_ratio {j : Int} (hm : m < Binary64.infinityMagnitude)
    (hj : coarsest m < j) :
    2 * Binary64.units m * (⟨1, j⟩ : Decimal).ratio.2 ≤ (⟨1, j⟩ : Decimal).ratio.1 := by
  obtain ⟨n, hn, hone⟩ := Binary64.one_eq_two_pow
  have hlog := Binary64.log2_units_lt hm
  have hunits : Binary64.units m < 2 ^ ((Binary64.units m).log2 + 1) := Nat.lt_log2_self
  rw [coarsest] at hj
  generalize (Binary64.units m).log2 = l at hlog hunits hj
  generalize Binary64.units m = u at hunits ⊢
  simp only [ratio]
  rw [hone, Nat.one_mul]
  split
  · have hpow : 2 ^ (l + 2 - n) ≤ 10 ^ j.toNat := two_pow_le_ten_pow_of_le (by omega) (by omega)
    calc 2 * u * 1 ≤ 2 ^ (l + 2) := by rw [Nat.pow_succ 2 (l + 1)]; omega
      _ ≤ 2 ^ (l + 2 - n + n) := Nat.pow_le_pow_right (by decide) (by omega)
      _ = 2 ^ (l + 2 - n) * 2 ^ n := Nat.pow_add ..
      _ ≤ 10 ^ j.toNat * 2 ^ n := Nat.mul_le_mul_right _ hpow
  · have hpow : 10 ^ (-j).toNat ≤ 2 ^ (n - (l + 3) + 1) :=
      ten_pow_le_two_pow_of_le (by omega) (by omega)
    calc 2 * u * 10 ^ (-j).toNat ≤ 2 ^ (l + 2) * 2 ^ (n - (l + 3) + 1) :=
          Nat.mul_le_mul (by rw [Nat.pow_succ 2 (l + 1)]; omega) hpow
      _ = 2 ^ (l + 2 + (n - (l + 3) + 1)) := (Nat.pow_add ..).symm
      _ = 2 ^ n := by rw [show l + 2 + (n - (l + 3) + 1) = n by omega]
      _ = 1 * 2 ^ n := (Nat.one_mul _).symm

/-- **No grid is left out at the beginning.** -/
theorem not_reads_of_coarsest_lt (hpos : 0 < m) (hm : m < Binary64.infinityMagnitude) {j : Int}
    (hj : coarsest m < j) (c : Nat) : nearestMagnitude ⟨c, j⟩ ≠ m := by
  by_cases hc : c = 0
  · rw [nearestMagnitude, if_pos hc]
    omega
  · have hlt := Binary64.lt_nearestMagnitude_of_two_mul_units_le hpos hm (ratio_snd_pos ⟨1, j⟩)
      (two_mul_units_le_ratio hm hj)
    have hle := nearestMagnitude_mono j (Nat.one_le_iff_ne_zero.2 hc)
    rw [← nearestMagnitude_eq] at hlt
    omega

theorem exponent_of_onGrid {tie : Tie} {d : Decimal} (h : onGrid tie m k = some d) :
    d.exponent = k := by
  simp only [onGrid] at h
  split at h
  · split at h <;> exact (Option.some_inj.1 h) ▸ rfl
  · split at h
    · exact (Option.some_inj.1 h) ▸ rfl
    · exact absurd h (by simp)

/-- No grid is left out on the way. -/
theorem not_reads_of_firstOnGrids_lt (tie : Tie) (hm : m < Binary64.infinityMagnitude)
    {fuel : Nat} (hfuel : fuel = (k + 1075).toNat) {j : Int}
    (hj : (firstOnGrids tie m fuel k).exponent < j) (hjk : j ≤ k) (c : Nat) :
    nearestMagnitude ⟨c, j⟩ ≠ m := by
  induction fuel generalizing k with
  | zero =>
    have hexact : (-1074 : Int) < j := hj
    omega
  | succ fuel ih =>
    rw [firstOnGrids] at hj
    split at hj
    · rename_i d hd
      have hexp := exponent_of_onGrid hd
      omega
    · rename_i hnone
      rcases Int.lt_or_eq_of_le hjk with hlt | rfl
      · exact ih (by omega) hj (by omega)
      · exact not_reads_of_onGrid_eq_none hm hnone c

/-- **Nothing reads back on a coarser grid.** -/
theorem not_reads_of_lt (tie : Tie) (hpos : 0 < m) (hm : m < Binary64.infinityMagnitude) {j : Int}
    (hj : (shortest tie m).exponent < j) (c : Nat) : nearestMagnitude ⟨c, j⟩ ≠ m := by
  rcases Int.lt_or_le (coarsest m) j with hlt | hle
  · exact not_reads_of_coarsest_lt hpos hm hlt c
  · exact not_reads_of_firstOnGrids_lt tie hm rfl hj hle c

/-- So the coefficient does not end with a zero. -/
theorem shortest_coefficient_mod_ne_zero (tie : Tie) (hpos : 0 < m)
    (hm : m < Binary64.infinityMagnitude) : (shortest tie m).coefficient % 10 ≠ 0 := by
  intro hmod
  refine not_reads_of_lt tie hpos hm (Int.lt_succ _) ((shortest tie m).coefficient / 10) ?_
  have hread := nearestMagnitude_shortest tie hm
  have hshift := nearestMagnitude_shift ((shortest tie m).coefficient / 10) 1
    (shortest tie m).exponent
  rw [Nat.pow_one, show (shortest tie m).coefficient / 10 * 10 = (shortest tie m).coefficient by
    omega] at hshift
  exact hshift.symm.trans hread

/-- **No decimal with fewer digits reads back.** -/
theorem length_digits_shortest_le (tie : Tie) (hpos : 0 < m) (hm : m < Binary64.infinityMagnitude)
    {d : Decimal} (hd : d.nearestMagnitude = m) :
    (digits (shortest tie m).coefficient).length ≤ (digits d.coefficient).length := by
  obtain ⟨a, i⟩ := d
  have hnone {j : Int} := not_reads_of_lt (j := j) tie hpos hm
  have hread := nearestMagnitude_shortest tie hm
  generalize shortest tie m = s at hnone hread ⊢
  obtain ⟨c, e⟩ := s
  simp only at hnone ⊢
  refine Nat.le_of_not_lt fun hlt => ?_
  have hone : 1 ≤ (digits a).length := List.length_pos_iff.2 (digits_ne_nil a)
  obtain ⟨l, hl⟩ : ∃ l, (digits c).length = l + 2 := ⟨(digits c).length - 2, by omega⟩
  have ha : a < 10 ^ (l + 1) :=
    (Nat.length_toDigits_le_iff (by decide) (Nat.succ_pos l)).1 (show (digits a).length ≤ _ by omega)
  have hc : 10 ^ (l + 1) ≤ c := by
    refine Nat.le_of_not_lt fun hc => ?_
    have hle : (digits c).length ≤ l + 1 :=
      (Nat.length_toDigits_le_iff (by decide) (Nat.succ_pos l)).2 hc
    omega
  rcases Int.lt_or_le e i with hei | hie
  · exact hnone hei a hd
  -- the power of ten between the two lies on a coarser grid
  · obtain ⟨t, rfl⟩ : ∃ t : Nat, e = i + t := ⟨(e - i).toNat, by omega⟩
    refine hnone (Int.lt_succ _) (10 ^ l) ?_
    have hupper := nearestMagnitude_mono (i + t) hc
    have hlower : nearestMagnitude ⟨a, i⟩ ≤ nearestMagnitude ⟨10 ^ (l + 1) * 10 ^ t, i⟩ :=
      nearestMagnitude_mono i (Nat.le_trans (Nat.le_of_lt ha)
        (Nat.le_mul_of_pos_right _ (Nat.pow_pos (by decide))))
    rw [nearestMagnitude_shift] at hlower
    have hcoarser := nearestMagnitude_shift (10 ^ l) 1 (i + t)
    rw [Nat.pow_one, ← Nat.pow_succ] at hcoarser
    refine hcoarser.symm.trans (Nat.le_antisymm ?_ ?_)
    · exact hread ▸ hupper
    · exact hd ▸ hlower

end Decimal

/-! ## Significands -/

/-- The digits begin with one that is not zero, they stand for a number that reads back as the
magnitude, and there are no fewer that do. -/
structure Significand.IsShortest (s : Significand) (magnitude : Nat) : Prop where
  isDigits : IsDigits s.digits
  eq_cons : ∃ c cs, s.digits = c :: cs ∧ c ≠ '0'
  reads : s.decimal.nearestMagnitude = magnitude
  least : ∀ d : Decimal, d.nearestMagnitude = magnitude →
    s.digits.length ≤ (ShareStreaks.digits d.coefficient).length

theorem Significand.ofDecimal_of_mod_ne_zero {d : Decimal} (h : d.coefficient % 10 ≠ 0) :
    ofDecimal d =
      ⟨ShareStreaks.digits d.coefficient,
        d.exponent + (ShareStreaks.digits d.coefficient).length - 1⟩ := by
  obtain ⟨ds, hds⟩ := digits_eq_append d.coefficient
  have hlast : ¬ ((d.coefficient % 10).digitChar == '0') = true := by
    rw [beq_iff_eq, Nat.digitChar_eq_zero]
    exact h
  have hkept : ((ShareStreaks.digits d.coefficient).reverse.dropWhile (· == '0')).reverse
      = ShareStreaks.digits d.coefficient := by
    rw [hds, List.reverse_append, List.reverse_singleton, List.singleton_append,
      List.dropWhile_cons_of_neg (p := (· == '0')) hlast, List.reverse_cons, List.reverse_reverse]
  simp only [ofDecimal]
  rw [hkept, List.isEmpty_eq_false_iff.2 (digits_ne_nil _), if_neg Bool.false_ne_true]

/-- **A number is written with its shortest digits.** -/
theorem Binary64.significand_isShortest {x : Binary64} (h : x.isFinite = true)
    (hz : x.isZero = false) (tie : Tie) : (x.significand tie).IsShortest x.magnitude := by
  have hm : x.magnitude < infinityMagnitude := of_decide_eq_true h
  have hpos : 0 < x.magnitude := Nat.pos_of_ne_zero (beq_eq_false_iff_ne.1 hz)
  have hmod := Decimal.shortest_coefficient_mod_ne_zero tie hpos hm
  have hreads := nearestMagnitude_significand h tie
  rw [significand, hz, if_neg Bool.false_ne_true, Significand.ofDecimal_of_mod_ne_zero hmod]
    at hreads ⊢
  refine ⟨isDigits_digits _, digits_eq_cons fun hzero => hmod (by rw [hzero]), hreads, ?_⟩
  exact fun d hd => Decimal.length_digits_shortest_le tie hpos hm hd

end ShareStreaks
