import ShareStreaks.Decimal.Basic

/-!
# Shares as percentages

A share is shown as a percentage with two decimals: `0.1234` is `12.34%`.  The share times a hundred is
rounded to a number first, as any product of numbers is, and that number is rounded to hundredths, a
half going to the even neighbour.  A negative share that rounds to nothing keeps its sign.
-/

set_option autoImplicit false

namespace ShareStreaks
namespace Binary64

/-- The magnitude's value in hundredths, rounded. -/
def hundredths (magnitude : Nat) : Nat := roundHalfEven (units magnitude * 100) one

/-- A number of hundredths with two decimals. -/
def twoDecimals (n : Nat) : List Char := digits (n / 100) ++ '.' :: padded 2 (n % 100)

/-- A share as a percentage. -/
def percent (share : Binary64) : List Char :=
  let x := share.times 100
  if x.isNaN then ['N', 'a', 'N', '%']
  else
    (if x.negative then ['-'] else []) ++
      (if x.isFinite then twoDecimals (hundredths x.magnitude) else ['i', 'n', 'f']) ++ ['%']

end Binary64
end ShareStreaks
