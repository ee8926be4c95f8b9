import ShareStreaks.Proofs.Binary64.Order

/-!
# One line through all values

Comparing numbers leaves two things open: the two zeros are equal, and a NaN compares with nothing.
`Binary64.TotallyBelow` settles both, rule by rule: the negative zero comes before the positive one,
negative NaNs come before all numbers and positive ones after them, and NaNs of one sign stand by their
payloads, the greater one further out.

`rank` numbers the values in this order (`rank_lt_iff`), so that sorting by rank is sorting by these
rules.
-/

set_option autoImplicit false

namespace ShareStreaks
namespace Binary64

/-- One value comes before another in the order of all values. -/
inductive TotallyBelow (x y : Binary64) : Prop where
  | number (h : x < y)
  | zeros (hx : x.isZero = true) (hy : y.isZero = true) (hneg : x.negative = true)
      (hpos : y.negative = false)
  | negativeNaN (hx : x.isNaN = true) (hneg : x.negative = true) (hy : y.isNaN = false)
  | positiveNaN (hx : x.isNaN = false) (hy : y.isNaN = true) (hpos : y.negative = false)
  | signs (hx : x.isNaN = true) (hy : y.isNaN = true) (hneg : x.negative = true)
      (hpos : y.negative = false)
  | negativePayloads (hx : x.isNaN = true) (hy : y.isNaN = true) (hxneg : x.negative = true)
      (hyneg : y.negative = true) (h : y.magnitude < x.magnitude)
  | positivePayloads (hx : x.isNaN = true) (hy : y.isNaN = true) (hxpos : x.negative = false)
      (hypos : y.negative = false) (h : x.magnitude < y.magnitude)

variable {x y : Binary64}

theorem isNaN_iff : x.isNaN = true ↔ infinityMagnitude < x.magnitude := decide_eq_true_iff

theorem isNaN_eq_false_iff : x.isNaN = false ↔ x.magnitude ≤ infinityMagnitude := by
  rw [isNaN, decide_eq_false_iff_not, Nat.not_lt]

theorem rank_of_negative (h : x.negative = true) : x.rank = -1 - x.magnitude := by
  rw [rank, if_pos h]

theorem rank_of_not_negative (h : x.negative = false) : x.rank = x.magnitude := by
  rw [rank, h, if_neg Bool.false_ne_true]

theorem place_of_negative (h : x.negative = true) : x.place = -x.magnitude := by
  rw [place, if_pos h]

theorem place_of_not_negative (h : x.negative = false) : x.place = x.magnitude := by
  rw [place, h, if_neg Bool.false_ne_true]

theorem TotallyBelow.rank_lt (h : x.TotallyBelow y) : x.rank < y.rank := by
  cases h with
  | number h =>
    have hplace := h.2.2
    cases hxs : x.negative <;> cases hys : y.negative <;>
      simp only [place, rank, hxs, hys, if_true, if_false, Bool.false_eq_true] at hplace ⊢ <;> omega
  | zeros hx hy hneg hpos =>
    rw [rank_of_negative hneg, rank_of_not_negative hpos]
    omega
  | negativeNaN hx hneg hy =>
    rw [isNaN_iff] at hx
    rw [isNaN_eq_false_iff] at hy
    rw [rank_of_negative hneg, rank]
    split <;> omega
  | positiveNaN hx hy hpos =>
    rw [isNaN_eq_false_iff] at hx
    rw [isNaN_iff] at hy
    rw [rank_of_not_negative hpos, rank]
    split <;> omega
  | signs hx hy hneg hpos =>
    rw [rank_of_negative hneg, rank_of_not_negative hpos]
    omega
  | negativePayloads hx hy hxneg hyneg h =>
    rw [rank_of_negative hxneg, rank_of_negative hyneg]
    omega
  | positivePayloads hx hy hxpos hypos h =>
    rw [rank_of_not_negative hxpos, rank_of_not_negative hypos]
    omega

theorem totallyBelow_of_rank_lt (h : x.rank < y.rank) : x.TotallyBelow y := by
  cases hxs : x.negative <;> cases hys : y.negative
  -- both positive
  · rw [rank_of_not_negative hxs, rank_of_not_negative hys] at h
    have hlt : x.magnitude < y.magnitude := by omega
    cases hx : x.isNaN <;> cases hy : y.isNaN
    · refine .number ⟨hx, hy, ?_⟩
      rw [place_of_not_negative hxs, place_of_not_negative hys]
      exact h
    · exact .positiveNaN hx hy hys
    · rw [isNaN_iff] at hx
      rw [isNaN_eq_false_iff] at hy
      omega
    · exact .positivePayloads hx hy hxs hys hlt
  -- a negative value is never above a positive one
  · rw [rank_of_not_negative hxs, rank_of_negative hys] at h
    omega
  · cases hx : x.isNaN <;> cases hy : y.isNaN
    · by_cases hzero : x.magnitude = 0 ∧ y.magnitude = 0
      · exact .zeros (beq_iff_eq.2 hzero.1) (beq_iff_eq.2 hzero.2) hxs hys
      · refine .number ⟨hx, hy, ?_⟩
        rw [place_of_negative hxs, place_of_not_negative hys]
        omega
    · exact .positiveNaN hx hy hys
    · exact .negativeNaN hx hxs hy
    · exact .signs hx hy hxs hys
  -- both negative
  · rw [rank_of_negative hxs, rank_of_negative hys] at h
    have hlt : y.magnitude < x.magnitude := by omega
    cases hx : x.isNaN <;> cases hy : y.isNaN
    · refine .number ⟨hx, hy, ?_⟩
      rw [place_of_negative hxs, place_of_negative hys]
      omega
    · rw [isNaN_eq_false_iff] at hx
      rw [isNaN_iff] at hy
      omega
    · exact .negativeNaN hx hxs hy
    · exact .negativePayloads hx hy hxs hys hlt

/-- **The ranks are in the order of the rules.** -/
theorem rank_lt_iff : x.rank < y.rank ↔ x.TotallyBelow y :=
  ⟨totallyBelow_of_rank_lt, TotallyBelow.rank_lt⟩

end Binary64
end ShareStreaks
