/-!
# Binary64 numbers

A share is a 64-bit binary floating-point number.  `Binary64` keeps it as the two parts that every
question about it is answered from: the sign bit, and the 63 bits below it read as a natural number,
the *magnitude*.  Numbers of one sign are ordered as their magnitudes are, infinity has the magnitude
`Binary64.infinityMagnitude`, and whatever lies above that is not a number.

Two orders are needed.

* `x ≤ y` and `x < y` compare numbers: both zeros are equal and a NaN compares with nothing.  A share
  meets a threshold in this order.
* `Binary64.rank` numbers all the 2^64 values in one line, `-0.0` just below `0.0` and the NaNs at
  both ends.  Results are sorted by it, so that sorting never has to give up.

Two values are equal as elements of `Binary64` when their bits are; `Binary64.sameNumber` is equality
of numbers.
-/

set_option autoImplicit false

-- Powers of whole numbers are those of the core library, whatever else is in scope.
attribute [instance (20000), default_instance 20000] instPowNat

namespace ShareStreaks

/-- A 64-bit binary floating-point number: its sign bit and the 63 bits below. -/
structure Binary64 where
  negative : Bool
  magnitude : Nat
  magnitude_lt : magnitude < 2 ^ 63
deriving DecidableEq

namespace Binary64

/-- All exponent bits set and no fraction. -/
def infinityMagnitude : Nat := 2047 * 2 ^ 52

theorem infinityMagnitude_lt : infinityMagnitude < 2 ^ 63 := by decide

/-! ## Bits -/

/-- The value with the given bits, the sign being the highest. -/
def ofBits (bits : Nat) : Binary64 where
  negative := bits / 2 ^ 63 % 2 == 1
  magnitude := bits % 2 ^ 63
  magnitude_lt := Nat.mod_lt _ (by decide)

def toBits (x : Binary64) : Nat :=
  (if x.negative then 2 ^ 63 else 0) + x.magnitude

theorem ofBits_toBits (x : Binary64) : ofBits x.toBits = x := by
  obtain ⟨s, m, hm⟩ := x
  cases s <;> simp only [ofBits, toBits, mk.injEq] <;> refine ⟨?_, ?_⟩ <;> simp <;> omega

/-! ## Classes of values -/

def isNaN (x : Binary64) : Bool := infinityMagnitude < x.magnitude

def isFinite (x : Binary64) : Bool := x.magnitude < infinityMagnitude

def isZero (x : Binary64) : Bool := x.magnitude == 0

def zero : Binary64 := ⟨false, 0, by decide⟩

def infinity (negative : Bool) : Binary64 := ⟨negative, infinityMagnitude, infinityMagnitude_lt⟩

def notANumber : Binary64 := ⟨false, infinityMagnitude + 2 ^ 51, by decide⟩

instance : Inhabited Binary64 := ⟨zero⟩

/-! ## Comparing numbers -/

/-- The magnitude with its sign: a place on the number line for every value that is a number. -/
def place (x : Binary64) : Int := if x.negative then -x.magnitude else x.magnitude

instance : LE Binary64 where
  le x y := x.isNaN = false ∧ y.isNaN = false ∧ x.place ≤ y.place

instance : LT Binary64 where
  lt x y := x.isNaN = false ∧ y.isNaN = false ∧ x.place < y.place

instance (x y : Binary64) : Decidable (x ≤ y) := inferInstanceAs (Decidable (_ ∧ _ ∧ _))

instance (x y : Binary64) : Decidable (x < y) := inferInstanceAs (Decidable (_ ∧ _ ∧ _))

/-- The two values are the same number.  A NaN is not even the same number as itself. -/
def sameNumber (x y : Binary64) : Bool := decide (x ≤ y) && decide (y ≤ x)

/-- The smaller of two numbers; where one operand is not a number, the other one. -/
def least (x y : Binary64) : Binary64 :=
  if x.isNaN then y else if y < x then y else x

/-- The larger of two numbers; where one operand is not a number, the other one. -/
def greatest (x y : Binary64) : Binary64 :=
  if x.isNaN then y else if x < y then y else x

/-! ## One line through all values -/

/-- The position of a value among all values, negative NaNs first and positive NaNs last. -/
def rank (x : Binary64) : Int := if x.negative then -1 - x.magnitude else x.magnitude

theorem rank_inj {x y : Binary64} (h : x.rank = y.rank) : x = y := by
  obtain ⟨s, m, hm⟩ := x
  obtain ⟨t, n, hn⟩ := y
  cases s <;> cases t <;> simp only [rank] at h <;> simp_all <;> omega

end Binary64
end ShareStreaks
