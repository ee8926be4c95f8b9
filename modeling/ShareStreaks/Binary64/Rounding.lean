import ShareStreaks.Binary64.Basic

/-!
# Exact values and rounding

Every finite `Binary64` is a whole number of `2^-1074`, the smallest positive one.  `units` gives that
whole number for a magnitude, so arithmetic on numbers is arithmetic on natural numbers followed by
one rounding, `nearestMagnitude`: the magnitude whose value is nearest to a quotient of natural
numbers of units, a value half way between two going to the one with an even magnitude.

The rounding works on the magnitude itself.  A quotient below `2^53` units rounds to a whole number of
units, which is its own magnitude; above, it is rounded to a multiple of `2^k` units with a factor from
`2^52` to `2^53`, and the magnitude of `n * 2^k` units is `k * 2^52 + n` for both ends of that range.
So a carry into the next power of two needs no case of its own, and neither has overflow: what would
lie past the largest finite number is cut to infinity.
-/

set_option autoImplicit false

namespace ShareStreaks
namespace Binary64

/-- The quotient rounded to a whole number, a half going to the even neighbour. -/
def roundHalfEven (num den : Nat) : Nat :=
  let q := num / den
  let r := num % den
  if 2 * r < den then q else if den < 2 * r then q + 1 else q + q % 2

/-- The value of a magnitude in units of `2^-1074`. -/
def units (magnitude : Nat) : Nat :=
  if magnitude < 2 ^ 52 then magnitude
  else (2 ^ 52 + magnitude % 2 ^ 52) * 2 ^ (magnitude / 2 ^ 52 - 1)

/-- The magnitude whose value is nearest to `num / den` units. -/
def nearestMagnitude (num den : Nat) : Nat :=
  let k := (num / den).log2 - 52
  min (k * 2 ^ 52 + roundHalfEven num (den * 2 ^ k)) infinityMagnitude

theorem nearestMagnitude_lt (num den : Nat) : nearestMagnitude num den < 2 ^ 63 :=
  Nat.lt_of_le_of_lt (Nat.min_le_right _ _) infinityMagnitude_lt

/-- The number of the given sign nearest to `num / den` units. -/
def nearest (negative : Bool) (num den : Nat) : Binary64 :=
  ⟨negative, nearestMagnitude num den, nearestMagnitude_lt num den⟩

/-- How many units make one. -/
def one : Nat := 2 ^ 1074

/-- The value of a finite number in units. -/
def value (x : Binary64) : Int := if x.negative then -(units x.magnitude) else units x.magnitude

/-- The number nearest to a whole number of units. -/
def ofUnits (v : Int) : Binary64 := nearest (v < 0) v.natAbs 1

def ofInt (n : Int) : Binary64 := ofUnits (n * one)

/-! ## Arithmetic -/

/-- A number times a positive whole number. -/
def times (x : Binary64) (n : Nat) : Binary64 :=
  if x.isFinite then nearest x.negative (units x.magnitude * n) 1 else x

/-- A number plus a whole number. -/
def plus (x : Binary64) (n : Int) : Binary64 :=
  if x.isFinite then ofUnits (x.value + n * one) else x

/-- The number of the other sign. -/
def negated (x : Binary64) : Binary64 := { x with negative := !x.negative }

/-- The sum of two numbers; it is a negative zero only if both are. -/
def add (x y : Binary64) : Binary64 :=
  if x.isNaN || y.isNaN then notANumber
  else if x.isFinite then
    if y.isFinite then
      if x.isZero && y.isZero then { zero with negative := x.negative && y.negative }
      else ofUnits (x.value + y.value)
    else y
  else if y.isFinite || x.negative == y.negative then x else notANumber

def sub (x y : Binary64) : Binary64 := x.add y.negated

/-- The product of two numbers. -/
def mul (x y : Binary64) : Binary64 :=
  let negative := x.negative != y.negative
  if x.isNaN || y.isNaN then notANumber
  else if x.isFinite && y.isFinite then
    nearest negative (units x.magnitude * units y.magnitude) one
  else if x.isZero || y.isZero then notANumber
  else infinity negative

/-- A number divided by another, both infinities and both zeros among them. -/
def div (x y : Binary64) : Binary64 :=
  let negative := x.negative != y.negative
  if x.isNaN || y.isNaN then notANumber
  else if x.isFinite then
    if y.isFinite then
      if y.isZero then if x.isZero then notANumber else infinity negative
      else nearest negative (units x.magnitude * one) (units y.magnitude)
    else { zero with negative := negative }
  else if y.isFinite then infinity negative else notANumber

/-- The whole number that a finite number is, if it is one. -/
def toInt? (x : Binary64) : Option Int :=
  if x.isFinite && units x.magnitude % one == 0 then some (x.value / one) else none

end Binary64
end ShareStreaks
