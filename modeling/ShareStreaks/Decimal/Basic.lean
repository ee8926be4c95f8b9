import ShareStreaks.Binary64.Rounding

/-!
# Decimals

A `Decimal` is a natural number times a power of ten: what a written number means, and what a number
is written as.  `Decimal.nearestMagnitude` reads it as a binary magnitude.  Numbers far outside the
range of `Binary64` are settled by the size of the exponent alone, so that a text such as `1e999999999`
costs nothing.

`digits` writes a natural number, `padded` fills it up with zeros on the left, and `grouped` sets a
comma after every third digit from the right.
-/

set_option autoImplicit false

namespace ShareStreaks

/-! ## Natural numbers as digits -/

/-- The decimal digits of a natural number, without leading zeros. -/
def digits (n : Nat) : List Char := Nat.toDigits 10 n

/-- A number in decimal digits. -/
def decimalText (n : Nat) : String := String.ofList (digits n)

theorem decimalText_eq (n : Nat) : decimalText n = toString n := rfl

/-- The natural number that a list of decimal digits stands for. -/
def ofDigits (cs : List Char) : Nat := Nat.ofDigitChars 10 cs 0

theorem ofDigits_digits (n : Nat) : ofDigits (digits n) = n := Nat.ofDigitChars_ten_toDigits

/-- The digits of a natural number, at least `width` of them. -/
def padded (width n : Nat) : List Char :=
  List.replicate (width - (digits n).length) '0' ++ digits n

/-- An integer as digits, after a minus sign if it is negative. -/
def signedDigits (n : Int) : List Char :=
  if n < 0 then '-' :: digits n.natAbs else digits n.natAbs

/-- Cuts a list of digits into threes from the right, and joins the pieces with commas. -/
def groupThrees : List Char → List Char
  | [] => []
  | c :: cs => if cs.length % 3 = 0 && !cs.isEmpty then c :: ',' :: groupThrees cs else c :: groupThrees cs

/-- A count as it is shown to a reader: `1234567` is `1,234,567`. -/
def grouped (n : Nat) : String := String.ofList (groupThrees (digits n))

/-! ## Decimals -/

/-- The number `coefficient * 10 ^ exponent`. -/
structure Decimal where
  coefficient : Nat
  exponent : Int
deriving DecidableEq

namespace Decimal

/-- The number as a quotient of natural numbers of units of `2^-1074`. -/
def ratio (d : Decimal) : Nat × Nat :=
  if 0 ≤ d.exponent then (d.coefficient * 10 ^ d.exponent.toNat * Binary64.one, 1)
  else (d.coefficient * Binary64.one, 10 ^ (-d.exponent).toNat)

/-- The magnitude nearest to the number. -/
def nearestMagnitude (d : Decimal) : Nat :=
  if d.coefficient = 0 then 0
  else if 400 < d.exponent then Binary64.infinityMagnitude
  else if d.exponent + d.coefficient.log2 < -400 then 0
  else Binary64.nearestMagnitude d.ratio.1 d.ratio.2

theorem nearestMagnitude_lt (d : Decimal) : d.nearestMagnitude < 2 ^ 63 := by
  unfold nearestMagnitude
  split
  · decide
  split
  · decide
  split
  · decide
  exact Binary64.nearestMagnitude_lt _ _

/-- The number of the given sign nearest to the decimal. -/
def nearest (negative : Bool) (d : Decimal) : Binary64 :=
  ⟨negative, d.nearestMagnitude, d.nearestMagnitude_lt⟩

end Decimal
end ShareStreaks
