import ShareStreaks.Decimal.Basic

/-!
# The shortest decimal of a number

`shortest` gives the decimal with the fewest digits that reads back as a given magnitude, and among
those the one nearest to it.  Where two are equally near, the caller's `Tie` chooses.

The decimals with a given number of digits are the points of a grid, the multiples of `10^k`.  On each
grid only the two points around the number can be nearest to it, so the search goes from coarse grids
to fine ones, asks of these two points whether they read back, and stops at the first grid with a hit.
The grid `10^-1074` contains every number there is, and ends the search.
-/

set_option autoImplicit false

namespace ShareStreaks

/-- Which of two equally near decimals is taken. -/
inductive Tie where
  | up
  | even
deriving DecidableEq

namespace Decimal

/-- The decimal reads back as the magnitude. -/
def readsAs (d : Decimal) (magnitude : Nat) : Bool := d.nearestMagnitude == magnitude

/-- A magnitude's value as a quotient, in units of `10^k`. -/
def gridRatio (magnitude : Nat) (k : Int) : Nat × Nat :=
  if 0 ≤ k then (Binary64.units magnitude, Binary64.one * 10 ^ k.toNat)
  else (Binary64.units magnitude * 10 ^ (-k).toNat, Binary64.one)

/-- The decimal on the grid `10^k` that reads back as the magnitude, the nearer one of two. -/
def onGrid (tie : Tie) (magnitude : Nat) (k : Int) : Option Decimal :=
  let (num, den) := gridRatio magnitude k
  let below : Decimal := ⟨num / den, k⟩
  let above : Decimal := ⟨num / den + 1, k⟩
  let rest := 2 * (num % den)
  let takeAbove := den < rest ||
    (rest == den && (tie == .up || below.coefficient % 2 == 1))
  if below.readsAs magnitude then
    if above.readsAs magnitude && takeAbove then some above else some below
  else if above.readsAs magnitude then some above else none

/-- The value of a magnitude, exactly. -/
def exact (magnitude : Nat) : Decimal := ⟨Binary64.units magnitude * 5 ^ 1074, -1074⟩

/-- The first decimal that reads back, from the grid `10^k` down. -/
def firstOnGrids (tie : Tie) (magnitude : Nat) : Nat → Int → Decimal
  | 0, _ => exact magnitude
  | fuel + 1, k =>
    match onGrid tie magnitude k with
    | some d => d
    | none => firstOnGrids tie magnitude fuel (k - 1)

/-- An exponent of ten that lies above the value of the magnitude: the binary exponent times a
number just above the logarithm of two. -/
def coarsest (magnitude : Nat) : Int :=
  (((Binary64.units magnitude).log2 : Int) - 1073) * 30103 / 100000 + 1

/-- The shortest decimal that reads back as the magnitude. -/
def shortest (tie : Tie) (magnitude : Nat) : Decimal :=
  let k := coarsest magnitude
  firstOnGrids tie magnitude (k + 1075).toNat k

end Decimal
end ShareStreaks
