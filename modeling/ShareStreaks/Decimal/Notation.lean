import ShareStreaks.Decimal.Shortest

/-!
# Writing numbers

A `NumberStyle` says how a number is written from its shortest digits: for which decimal exponents the
digits are written out around the point, how the exponent looks otherwise, and what stands for the
values that are not finite.

Written out, a number always shows its point, with a zero after it if nothing else follows; with an
exponent, the point is there only if a digit follows it.  A zero keeps its sign.
-/

set_option autoImplicit false

namespace ShareStreaks

structure NumberStyle where
  /-- The least decimal exponent that is written out. -/
  leastExponent : Int
  /-- The greatest decimal exponent that is written out. -/
  greatestExponent : Int
  /-- Positive exponents show a plus sign. -/
  plusSign : Bool
  /-- Exponents have at least this many digits. -/
  exponentDigits : Nat
  tie : Tie
  notANumber : String
  infinity : String
  negativeInfinity : String

/-- The digits of a number from the first to the last one that is not zero, and the power of ten of
the first. -/
structure Significand where
  digits : List Char
  exponent : Int
deriving DecidableEq

namespace Significand

/-- The digits of a decimal. -/
def ofDecimal (d : Decimal) : Significand :=
  let ds := ShareStreaks.digits d.coefficient
  let kept := (ds.reverse.dropWhile (· == '0')).reverse
  ⟨if kept.isEmpty then ['0'] else kept, d.exponent + ds.length - 1⟩

/-- The digits written out around the point. -/
def positional (s : Significand) : List Char :=
  if s.exponent < 0 then
    '0' :: '.' :: (List.replicate (-s.exponent - 1).toNat '0' ++ s.digits)
  else
    let width := s.exponent.toNat + 1
    let whole := s.digits.take width ++ List.replicate (width - s.digits.length) '0'
    let fraction := s.digits.drop width
    whole ++ '.' :: (if fraction.isEmpty then ['0'] else fraction)

/-- The digits with a point after the first, and the exponent. -/
def scientific (style : NumberStyle) (s : Significand) : List Char :=
  let mantissa := match s.digits with
    | c :: d :: ds => c :: '.' :: d :: ds
    | ds => ds
  let sign := if s.exponent < 0 then ['-'] else if style.plusSign then ['+'] else []
  mantissa ++ 'e' :: (sign ++ padded style.exponentDigits s.exponent.natAbs)

/-- The digits in the notation that the style has for their exponent. -/
def written (style : NumberStyle) (s : Significand) : List Char :=
  if style.leastExponent ≤ s.exponent ∧ s.exponent ≤ style.greatestExponent then s.positional
  else s.scientific style

end Significand

namespace Binary64

/-- The shortest digits of a finite number. -/
def significand (tie : Tie) (x : Binary64) : Significand :=
  if x.isZero then ⟨['0'], 0⟩ else .ofDecimal (Decimal.shortest tie x.magnitude)

/-- A number in the given style. -/
def written (style : NumberStyle) (x : Binary64) : List Char :=
  if x.isNaN then style.notANumber.toList
  else if x.isFinite then
    (if x.negative then ['-'] else []) ++ (x.significand style.tie).written style
  else (if x.negative then style.negativeInfinity else style.infinity).toList

end Binary64
end ShareStreaks
