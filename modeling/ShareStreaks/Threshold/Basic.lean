import ShareStreaks.Binary64.Basic
import ShareStreaks.Decimal.Literal

/-!
# Thresholds

A threshold asks for a least share over a least number of consecutive years.  The share is a finite
number and the count is a positive one that fits 64 bits; both are part of the type, so nothing
downstream has to ask again.

`a.covers b` says that `a` asks for no more than `b` in either respect, so that whatever meets `b`
meets `a`.
-/

set_option autoImplicit false

namespace ShareStreaks

structure Threshold where
  minShare : Binary64
  years : Nat
  finite : minShare.isFinite = true
  years_pos : 0 < years
  years_lt : years < wordSize
deriving DecidableEq

/-- Why a share and a count are no threshold. -/
inductive ThresholdFault where
  | notFinite (share : Binary64)
  | noYears
deriving DecidableEq

namespace Threshold

/-- The threshold of a share and a count of years.  The share is looked at first. -/
def make (minShare : Binary64) (years : Nat) (h : years < wordSize) :
    Except ThresholdFault Threshold :=
  if finite : minShare.isFinite = true then
    if pos : 0 < years then .ok ⟨minShare, years, finite, pos, h⟩ else .error .noYears
  else .error (.notFinite minShare)

/-- Asks for no more than the other threshold. -/
def covers (a b : Threshold) : Bool := decide (a.minShare ≤ b.minShare) && decide (a.years ≤ b.years)

/-- Asks for the same as the other threshold, the two zeros being one share. -/
def same (a b : Threshold) : Bool := a.minShare.sameNumber b.minShare && a.years == b.years

end Threshold
end ShareStreaks
