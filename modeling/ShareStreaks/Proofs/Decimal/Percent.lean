import Mathlib.Order.WithBotTop
import ShareStreaks.Decimal.Percent
import ShareStreaks.Proofs.Binary64.Whole
import ShareStreaks.Proofs.Decimal.Nearest
import ShareStreaks.Proofs.Decimal.Digits

/-!
# What percentages show

A percentage shows a number (`shownPercent?`): digits around a point are read exactly, a minus in front
counts, and `inf` lies beyond all numbers.

**Percentages keep the order of shares** (`Binary64.percent_mono`).  Two roundings stand between a share
and its percentage, to a number after the product and to hundredths after that.  Each of them keeps the
order of magnitudes, also where the product is too large and becomes infinite
(`Binary64.percentSize_mono`); the sign turns it around for negative shares, whose percentages are shown
with the same sign.
-/

set_option autoImplicit false

namespace ShareStreaks

/-! ## Reading a percentage -/

/-- A size with a sign: infinity lies above all numbers, or below them if it is negative. -/
def withSign (negative : Bool) : WithTop ℚ → WithBotTop ℚ
  | ⊤ => if negative then ⊥ else ⊤
  | (q : ℚ) => if negative then ((-q : ℚ) : WithBotTop ℚ) else (q : WithBotTop ℚ)

/-- The size that the middle of a percentage shows. -/
def shownSize? (cs : List Char) : Option (WithTop ℚ) :=
  if cs = ['i', 'n', 'f'] then some ⊤ else (readDecimal cs).map fun d => (d.toRat : WithTop ℚ)

/-- The number before the percent sign. -/
def shownPercent? (cs : List Char) : Option (WithBotTop ℚ) :=
  let (negative, size) := splitSign cs.dropLast
  if cs.getLast? = some '%' then (shownSize? size).map (withSign negative) else none

section withSign

variable {v w : WithTop ℚ}

theorem withSign_false_mono (h : v ≤ w) : withSign false v ≤ withSign false w := by
  cases w with
  | top => exact le_top
  | coe q =>
    obtain ⟨p, rfl, hpq⟩ := WithTop.le_coe_iff.1 h
    exact WithBotTop.coe_le_coe.2 hpq

theorem withSign_true_anti (h : v ≤ w) : withSign true w ≤ withSign true v := by
  cases w with
  | top => exact bot_le
  | coe q =>
    obtain ⟨p, rfl, hpq⟩ := WithTop.le_coe_iff.1 h
    exact WithBotTop.coe_le_coe.2 (neg_le_neg hpq)

/-- A zero is the same number with either sign. -/
theorem withSign_zero (negative : Bool) : withSign negative 0 = (0 : ℚ) := by
  cases negative
  · rfl
  · rw [show withSign true 0 = ((-0 : ℚ) : WithBotTop ℚ) from rfl, neg_zero]

theorem withSign_true_le_false (h : 0 ≤ v) (h' : 0 ≤ w) : withSign true v ≤ withSign false w := by
  have hv := withSign_true_anti h
  have hw := withSign_false_mono h'
  rw [withSign_zero] at hv hw
  exact hv.trans hw

end withSign

namespace Binary64

variable {x y : Binary64}

/-! ## Products -/

theorem negative_times (x : Binary64) (n : Nat) : (x.times n).negative = x.negative := by
  rw [times]
  split
  · rw [nearest]
  · rfl

theorem isNaN_times (h : x.isNaN = false) (n : Nat) : (x.times n).isNaN = false := by
  rw [times]
  split
  · exact isNaN_nearest _ _ _
  · exact h

theorem magnitude_times_mono (h : x.magnitude ≤ y.magnitude) (n : Nat) :
    (x.times n).magnitude ≤ (y.times n).magnitude := by
  rw [times, times]
  split
  · split
    · exact nearestMagnitude_mono_left Nat.one_pos
        (Nat.mul_le_mul_right n (units_strictMono.monotone h))
    · rename_i hy
      exact Nat.le_trans (Nat.min_le_right _ _) (Nat.not_lt.1 (mt decide_eq_true hy))
  · rename_i hx
    have hy : ¬y.isFinite = true := fun hy =>
      hx (decide_eq_true (Nat.lt_of_le_of_lt h (of_decide_eq_true hy)))
    rw [if_neg hy]
    exact h

/-! ## Sizes -/

/-- The size that the percentage of a share shows: the product, rounded once more to hundredths. -/
def percentSize (x : Binary64) : WithTop ℚ :=
  let product := x.times 100
  if product.isFinite then ((hundredths product.magnitude / 100 : ℚ) : WithTop ℚ) else ⊤

theorem percentSize_nonneg (x : Binary64) : 0 ≤ x.percentSize := by
  simp only [percentSize]
  split
  · exact WithTop.coe_le_coe.2 (by positivity)
  · exact le_top

theorem magnitude_times_eq_zero (h : x.magnitude = 0) (n : Nat) : (x.times n).magnitude = 0 := by
  have hfinite : x.isFinite = true := decide_eq_true (by rw [h]; decide)
  rw [times, if_pos hfinite, nearest, h, show units 0 = 0 from rfl, Nat.zero_mul]
  exact nearestMagnitude_of_two_mul_lt Nat.one_pos

theorem hundredths_zero : hundredths 0 = 0 :=
  roundHalfEven_of_two_mul_lt (Nat.cast_pos.1 one_pos)

theorem percentSize_of_magnitude_eq_zero (h : x.magnitude = 0) : x.percentSize = 0 := by
  have hproduct := magnitude_times_eq_zero h 100
  have hfinite : (x.times 100).isFinite = true := decide_eq_true (by rw [hproduct]; decide)
  rw [percentSize, if_pos hfinite, hproduct, hundredths_zero]
  norm_num

theorem hundredths_mono {m n : Nat} (h : m ≤ n) : hundredths m ≤ hundredths n :=
  roundHalfEven_mono (Nat.mul_le_mul_right 100 (units_strictMono.monotone h)) one

/-- **A greater magnitude has no smaller percentage.** -/
theorem percentSize_mono (h : x.magnitude ≤ y.magnitude) : x.percentSize ≤ y.percentSize := by
  have hproduct := magnitude_times_mono h 100
  simp only [percentSize]
  by_cases hy : (y.times 100).isFinite = true
  · have hx : (x.times 100).isFinite = true :=
      decide_eq_true (Nat.lt_of_le_of_lt hproduct (of_decide_eq_true hy))
    rw [if_pos hx, if_pos hy, WithTop.coe_le_coe]
    exact div_le_div_of_nonneg_right (Nat.cast_le.2 (hundredths_mono hproduct)) (by norm_num)
  · rw [if_neg hy]
    exact le_top

/-! ## Percentages as texts -/

/-- Two decimals are read as hundredths. -/
theorem readDecimal_twoDecimals (n : Nat) :
    ∃ d, readDecimal (twoDecimals n) = some d ∧ d.toRat = n / 100 := by
  have hlength : (padded 2 (n % 100)).length = 2 := by
    rw [length_padded]
    exact Nat.max_eq_left ((Nat.length_toDigits_le_iff (by decide) (by decide)).2
      (Nat.mod_lt n (by decide)))
  refine ⟨_, readDecimal_fraction (isDigits_digits _) (digits_ne_nil _) (isDigits_padded _ _), ?_⟩
  rw [ofDigits_append, hlength, ofDigits_digits, ofDigits_padded,
    show 10 ^ 2 * (n / 100) + n % 100 = n by omega]
  simp only [Decimal.toRat]
  norm_num [div_eq_mul_inv]

theorem head?_twoDecimals (n : Nat) : ∃ c cs, twoDecimals n = c :: cs ∧ c.isDigit = true := by
  obtain ⟨c, cs, hcs⟩ := List.exists_cons_of_ne_nil (digits_ne_nil (n / 100))
  refine ⟨c, cs ++ '.' :: padded 2 (n % 100), by rw [twoDecimals, hcs, List.cons_append], ?_⟩
  exact isDigits_digits (n / 100) c (by rw [hcs]; exact List.mem_cons_self)

/-- **The percentage of a number shows its size and its sign.** -/
theorem shownPercent?_percent (h : x.isNaN = false) :
    shownPercent? x.percent = some (withSign x.negative x.percentSize) := by
  have hread {size : List Char} (hplain : splitSign size = (false, size)) :
      shownPercent? ((if x.negative then ['-'] else []) ++ size ++ ['%']) =
        (shownSize? size).map (withSign x.negative) := by
    simp only [shownPercent?]
    rw [List.dropLast_concat, List.getLast?_concat, if_pos rfl,
      splitSign_append (isSign_ite _) hplain]
  rw [percent, isNaN_times h, if_neg Bool.false_ne_true, negative_times, percentSize]
  by_cases hfinite : (x.times 100).isFinite = true
  · rw [if_pos hfinite, if_pos hfinite]
    obtain ⟨c, cs, hcs, hdigit⟩ := head?_twoDecimals (hundredths (x.times 100).magnitude)
    obtain ⟨d, hd, hvalue⟩ := readDecimal_twoDecimals (hundredths (x.times 100).magnitude)
    have hinf : twoDecimals (hundredths (x.times 100).magnitude) ≠ ['i', 'n', 'f'] := by
      rw [hcs]
      rintro ⟨⟩
      exact absurd hdigit (by decide)
    rw [hread (by rw [hcs]; exact splitSign_of_isDigit hdigit cs), shownSize?, if_neg hinf, hd,
      Option.map_some, Option.map_some, hvalue]
  · rw [if_neg hfinite, if_neg hfinite, hread rfl]
    rfl

/-- The characters of a percentage other than digits. -/
def percentMarks : List Char := ['-', '.', '%', 'N', 'a', 'i', 'n', 'f']

theorem mem_twoDecimals {c : Char} {n : Nat} (h : c ∈ twoDecimals n) :
    c.isDigit = true ∨ c ∈ percentMarks := by
  rcases List.mem_append.1 h with h | h
  · exact .inl (isDigits_digits _ c h)
  · rcases List.mem_cons.1 h with rfl | h
    · exact .inr (by decide)
    · exact .inl (isDigits_padded _ _ c h)

theorem mem_percent {c : Char} (h : c ∈ x.percent) : c.isDigit = true ∨ c ∈ percentMarks := by
  have hmark {cs : List Char} (hc : c ∈ cs) (hcs : cs ⊆ percentMarks) :
      c.isDigit = true ∨ c ∈ percentMarks := .inr (hcs hc)
  simp only [percent] at h
  split at h
  · exact hmark h (by decide)
  · rcases List.mem_append.1 h with h | h
    · rcases List.mem_append.1 h with h | h
      · split at h
        · exact hmark h (by decide)
        · exact hmark h (by decide)
      · split at h
        · exact mem_twoDecimals h
        · exact hmark h (by decide)
    · exact hmark h (by decide)

/-- **Percentages keep the order of shares.** -/
theorem percent_mono (h : x ≤ y) :
    ∃ v w, shownPercent? x.percent = some v ∧ shownPercent? y.percent = some w ∧ v ≤ w := by
  obtain ⟨hx, hy, hplace⟩ := h
  refine ⟨_, _, shownPercent?_percent hx, shownPercent?_percent hy, ?_⟩
  simp only [place] at hplace
  cases hsx : x.negative <;> cases hsy : y.negative <;>
    simp only [hsx, hsy, Bool.false_eq_true, if_true, if_false] at hplace
  · exact withSign_false_mono (percentSize_mono (by omega))
  -- only the two zeros are in order with these signs
  · rw [percentSize_of_magnitude_eq_zero (by omega : x.magnitude = 0), withSign_zero,
      percentSize_of_magnitude_eq_zero (by omega : y.magnitude = 0), withSign_zero]
  · exact withSign_true_le_false (percentSize_nonneg x) (percentSize_nonneg y)
  · exact withSign_true_anti (percentSize_mono (by omega))

end Binary64
end ShareStreaks
