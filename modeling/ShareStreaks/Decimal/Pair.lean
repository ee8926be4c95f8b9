import ShareStreaks.Decimal.Basic

/-!
# Pairs of numbers

A pair stands for the sum of its two numbers, the second being what is left over by the first.  It holds
about twice as many digits as one number does.  `Pair.times` multiplies two pairs with arithmetic on
single numbers alone, so that its result is near the product, but not always the pair nearest to it.

`Pair.powerOfTen` is the pair for a power of ten, and `Pair.scaled` multiplies by a power of ten in steps
of hundred, ten and one.  The steps are part of the result: other steps would leave other errors.
-/

set_option autoImplicit false

namespace ShareStreaks

/-- The number without the lower half of its digits. -/
def Binary64.upperHalf (x : Binary64) : Binary64 where
  negative := x.negative
  magnitude := x.magnitude - x.magnitude % 2 ^ 26
  magnitude_lt := Nat.lt_of_le_of_lt (Nat.sub_le _ _) x.magnitude_lt

/-- The sum of two numbers, not carried out. -/
structure Pair where
  high : Binary64
  low : Binary64

namespace Pair

/-- The product of two pairs, nearly.  The product of the first numbers is put together from those of
their halves, which lose little; what it loses and the mixed products make up the second number. -/
def times (x y : Pair) : Pair :=
  let xUpper := x.high.upperHalf
  let xLower := x.high.sub xUpper
  let yUpper := y.high.upperHalf
  let yLower := y.high.sub yUpper
  let upper := xUpper.mul yUpper
  let mixed := (xUpper.mul yLower).add (xLower.mul yUpper)
  let sum := upper.add mixed
  let lost := ((upper.sub sum).add mixed).add (xLower.mul yLower)
  let rest := ((x.high.mul y.low).add (x.low.mul y.high)).add lost
  let high := sum.add rest
  ⟨high, (sum.sub high).add rest⟩

/-- The pair nearest to a power of ten. -/
def powerOfTen (exponent : Int) : Pair :=
  let d : Decimal := ⟨1, exponent⟩
  let high := d.nearest false
  let rest := (d.ratio.1 : Int) - high.value * d.ratio.2
  ⟨high, .nearest (rest < 0) rest.natAbs d.ratio.2⟩

def hundredTens : Pair := powerOfTen 100

def tenTens : Pair := powerOfTen 10

def oneTen : Pair := powerOfTen 1

def hundredTenths : Pair := powerOfTen (-100)

def tenTenths : Pair := powerOfTen (-10)

def oneTenth : Pair := powerOfTen (-1)

/-- A pair multiplied by another again and again. -/
def timesRepeated (factor : Pair) : Nat → Pair → Pair
  | 0, x => x
  | n + 1, x => timesRepeated factor n (x.times factor)

/-- A pair times a power of ten. -/
def scaled (x : Pair) (exponent : Int) : Pair :=
  let n := exponent.natAbs
  let (hundred, ten, one) := if 0 ≤ exponent then (hundredTens, tenTens, oneTen)
    else (hundredTenths, tenTenths, oneTenth)
  timesRepeated one (n % 10) (timesRepeated ten (n / 10 % 10) (timesRepeated hundred (n / 100) x))

/-- The pair as one number. -/
def sum (x : Pair) : Binary64 := x.high.add x.low

end Pair
end ShareStreaks
