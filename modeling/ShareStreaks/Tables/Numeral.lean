import ShareStreaks.Decimal.Literal
import ShareStreaks.Decimal.Notation
import ShareStreaks.Decimal.Pair

/-!
# Numbers in texts

How a database reads a number from a text and writes one as a text.

`leadingNumber` reads the number at the front of a text.  Its digits are taken into a natural number of
about 64 bits, the *significand*; the digits that have no room there are left out, and those before the
point count as zeros.  The significand is then multiplied by a power of ten as a `Pair`, so the value is
near the number that is written, but not always the nearest.

`realText` writes fifteen digits.  It multiplies the number as a `Pair` by a power of ten that makes it a
natural number of eighteen or nineteen digits, and rounds that.
-/

set_option autoImplicit false

namespace ShareStreaks
namespace Numeral

/-! ## Reading -/

/-- The characters that are skipped around a number. -/
def isGap (c : Char) : Bool := c == ' ' || (0x09 ≤ c.toNat && c.toNat ≤ 0x0D)

def digitValue (c : Char) : Nat := c.toNat - '0'.toNat

/-- A significand below this takes another digit. -/
def roomForDigit : Nat := 1844674407370955160

/-- A significand with digits after it, and the number of digits that were left out. -/
def addDigits (s : Nat) : List Char → Nat × Nat
  | [] => (s, 0)
  | c :: cs => if s < roomForDigit then addDigits (10 * s + digitValue c) cs else (s, cs.length + 1)

/-- An exponent; beyond four digits it stops growing. -/
def exponentOf (ds : List Char) : Nat :=
  ds.foldl (fun e c => if e < 10000 then 10 * e + digitValue c else 10000) 0

/-- The exponent at the front of a text and what follows it, if there is one. -/
def splitExponent : List Char → Option (Int × List Char)
  | [] => none
  | c :: cs =>
    let (negative, rest) := splitSign cs
    let ds := rest.takeWhile Char.isDigit
    if (c == 'e' || c == 'E') && !ds.isEmpty then
      some (if negative then -exponentOf ds else exponentOf ds, rest.dropWhile Char.isDigit)
    else none

/-- Moves powers of ten from a positive exponent into a significand, as far as there is room. -/
def absorb (s : Nat) : Nat → Nat × Nat
  | 0 => (s, 0)
  | e + 1 => if s < 1844674407370954956 then absorb (10 * s) e else (s, e + 1)

/-- Cancels powers of ten between a significand and a negative exponent. -/
def cancel (s : Nat) : Nat → Nat × Nat
  | 0 => (s, 0)
  | e + 1 => if s % 10 = 0 then cancel (s / 10) e else (s, e + 1)

/-- A natural number as a pair; near `2^64` there is nothing in its second part. -/
def pairOf (s : Nat) : Pair :=
  let high := Binary64.ofInt s
  ⟨high, if high.value ≤ (2 ^ 64 - 2 ^ 11) * Binary64.one then
    .ofUnits (s * Binary64.one - high.value) else .zero⟩

/-- The value of a significand times a power of ten. -/
def valueOf (negative : Bool) (s : Nat) (e : Int) : Binary64 :=
  if s = 0 then { Binary64.zero with negative := negative }
  else
    let (s, e) : Nat × Int :=
      if 0 ≤ e then let r := absorb s e.toNat; (r.1, r.2) else let r := cancel s (-e).toNat; (r.1, -r.2)
    let x := ((pairOf s).scaled e).sum
    let x := if x.isNaN then .infinity false else x
    { x with negative := x.negative != negative }

end Numeral

/-- The number at the front of a text. -/
structure LeadingNumber where
  value : Binary64
  /-- The value of a number written as digits alone. -/
  integer? : Option Int
  /-- Nothing but the number and gaps around it makes up the text. -/
  alone : Bool

open Numeral in
/-- The number at the front of a text, zero if there is none. -/
def leadingNumber (cs : List Char) : LeadingNumber :=
  let (negative, cs) := splitSign (cs.dropWhile isGap)
  let whole := cs.takeWhile Char.isDigit
  let afterWhole := cs.dropWhile Char.isDigit
  let (fraction, afterFraction) := splitFraction afterWhole
  let noDigits := whole.isEmpty && fraction.isEmpty
  let exponent := if noDigits then none else splitExponent afterFraction
  let rest := (exponent.map Prod.snd).getD afterFraction
  let (s, left) := addDigits 0 whole
  let (s, leftOfFraction) := addDigits s fraction
  let e := (exponent.map Prod.fst).getD 0 + left - (fraction.length - leftOfFraction : Nat)
  { value := valueOf negative s e
    integer? :=
      if afterWhole.length == rest.length && !noDigits then
        some (if negative then -ofDigits whole else ofDigits whole)
      else none
    alone := !noDigits && rest.all isGap }

namespace Numeral

/-! ## Writing -/

/-- Multiplies by a factor for ten to the given power as long as the number is too small, or too large;
the exponent makes up for it. -/
def stepped (tooFar : Binary64 → Bool) (factor : Pair) (power : Int) :
    Nat → Pair × Int → Pair × Int
  | 0, r => r
  | steps + 1, (x, e) =>
    if tooFar x.high then stepped tooFar factor power steps (x.times factor, e - power) else (x, e)

/-- A bound between two steps. -/
def bound (coefficient : Nat) (exponent : Int) : Binary64 :=
  (⟨coefficient, exponent⟩ : Decimal).nearest false

/-- A positive number as a pair between ten to the 17th and to the 19th, times a power of ten. -/
def spread (x : Binary64) : Pair × Int :=
  let far := bound 9223372036854774784 0
  if far < x then
    stepped (fun y => decide (far < y)) .oneTenth (-1) 20
      (stepped (fun y => decide (bound 9223372036854774784 10 < y)) .tenTenths (-10) 20
        (stepped (fun y => decide (bound 9223372036854774784 100 < y)) .hundredTenths (-100) 20
          (⟨x, .zero⟩, 0)))
  else
    stepped (fun y => decide (y < bound 922337203685477478 0)) .oneTen 1 20
      (stepped (fun y => decide (y < bound 9223372036854774784 (-11))) .tenTens 10 20
        (stepped (fun y => decide (y < bound 9223372036854774784 (-101))) .hundredTens 100 20
          (⟨x, .zero⟩, 0)))

/-- The whole part of a number without its sign. -/
def wholePart (x : Binary64) : Nat := (x.value.natAbs) / Binary64.one

/-- The first `count` digits of a positive number, a half being rounded up. -/
def significand (count : Nat) (x : Binary64) : Significand :=
  let (y, e) := spread x
  let n := if y.low.value < 0 then wholePart y.high - wholePart y.low
    else wholePart y.high + wholePart y.low
  let ds := digits n
  let up := if (ds.drop count).head?.any fun c => '5' ≤ c then 1 else 0
  .ofDecimal ⟨ofDigits (ds.take count) + up, e + (ds.length - count : Nat)⟩

end Numeral

open Numeral in
/-- A number as a text: fifteen digits, written out from `0.0001` to fifteen digits before the point,
always with a point. -/
def realText (x : Binary64) : List Char :=
  let style : NumberStyle := {
    leastExponent := -4, greatestExponent := 14, plusSign := true, exponentDigits := 2, tie := .up
    notANumber := "", infinity := "Inf", negativeInfinity := "-Inf" }
  if x.isZero then ['0', '.', '0']
  else if x.isFinite then
    let s := significand 15 { x with negative := false }
    let s' : Significand := if s.digits.length = 1 then ⟨s.digits ++ ['0'], s.exponent⟩ else s
    (if x.negative then ['-'] else []) ++
      (if style.leastExponent ≤ s.exponent ∧ s.exponent ≤ style.greatestExponent then s.positional
        else s'.scientific style)
  else x.written style

end ShareStreaks
