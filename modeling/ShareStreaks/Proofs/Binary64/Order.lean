import ShareStreaks.Binary64.Rounding

/-!
# Comparing numbers

The order of numbers is the order of their places on the number line, as long as no NaN takes part;
a NaN is neither below nor above anything, not even itself.  `least` and `greatest` choose one of
their two operands, and between numbers they choose as their names say.

Numbers at the same place need not have the same bits, but the two zeros are the only ones that do
not: `eq_of_le_of_le` says so.
-/

set_option autoImplicit false

namespace ShareStreaks
namespace Binary64

variable {x y z : Binary64}

/-! ## The order -/

theorem isNaN_of_isFinite (h : x.isFinite = true) : x.isNaN = false := by
  simp only [isFinite, isNaN, decide_eq_true_eq, decide_eq_false_iff_not] at h ⊢
  omega

theorem le_refl (h : x.isNaN = false) : x ≤ x := ⟨h, h, Int.le_refl _⟩

theorem le_trans (h : x ≤ y) (h' : y ≤ z) : x ≤ z :=
  ⟨h.1, h'.2.1, Int.le_trans h.2.2 h'.2.2⟩

theorem le_of_lt (h : x < y) : x ≤ y := ⟨h.1, h.2.1, Int.le_of_lt h.2.2⟩

theorem le_of_not_lt (hx : x.isNaN = false) (hy : y.isNaN = false) (h : ¬ y < x) : x ≤ y :=
  ⟨hx, hy, Int.not_lt.1 fun hp => h ⟨hy, hx, hp⟩⟩

/-- Two numbers at one place have the same bits, unless they are the two zeros. -/
theorem eq_of_le_of_le (h : x ≤ y) (h' : y ≤ x) (hz : x.isZero = false) : x = y := by
  have hp : x.place = y.place := Int.le_antisymm h.2.2 h'.2.2
  obtain ⟨s, m, hm⟩ := x
  obtain ⟨t, n, hn⟩ := y
  simp only [isZero, beq_eq_false_iff_ne] at hz
  cases s <;> cases t <;> simp only [place, if_true, Bool.false_eq_true, if_false] at hp <;>
    simp only [mk.injEq, true_and, Bool.false_eq_true, Bool.true_eq_false, false_and] <;> omega

theorem eq_zero_or_of_isZero (h : x.isZero = true) : x = zero ∨ x = zero.negated := by
  obtain ⟨s, m, hm⟩ := x
  simp only [isZero, beq_iff_eq] at h
  subst h
  cases s
  · exact Or.inl rfl
  · exact Or.inr rfl

/-! ## The smaller and the larger of two -/

theorem least_eq_or (x y : Binary64) : x.least y = x ∨ x.least y = y := by
  rw [least]
  split
  · exact Or.inr rfl
  · split
    · exact Or.inr rfl
    · exact Or.inl rfl

theorem greatest_eq_or (x y : Binary64) : x.greatest y = x ∨ x.greatest y = y := by
  rw [greatest]
  split
  · exact Or.inr rfl
  · split
    · exact Or.inr rfl
    · exact Or.inl rfl

theorem least_le_left (hx : x.isNaN = false) : x.least y ≤ x := by
  rw [least, hx, if_neg Bool.false_ne_true]
  split
  · exact le_of_lt ‹_›
  · exact le_refl hx

theorem least_le_right (hx : x.isNaN = false) (hy : y.isNaN = false) : x.least y ≤ y := by
  rw [least, hx, if_neg Bool.false_ne_true]
  split
  · exact le_refl hy
  · exact le_of_not_lt hx hy ‹_›

theorem left_le_greatest (hx : x.isNaN = false) : x ≤ x.greatest y := by
  rw [greatest, hx, if_neg Bool.false_ne_true]
  split
  · exact le_of_lt ‹_›
  · exact le_refl hx

theorem right_le_greatest (hx : x.isNaN = false) (hy : y.isNaN = false) : y ≤ x.greatest y := by
  rw [greatest, hx, if_neg Bool.false_ne_true]
  split
  · exact le_refl hy
  · exact le_of_not_lt hy hx ‹_›

end Binary64
end ShareStreaks
