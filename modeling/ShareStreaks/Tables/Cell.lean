import ShareStreaks.Calendar.Date
import ShareStreaks.Tables.Numeral

/-!
# Cells of a database

A cell holds nothing, an integer of 64 bits, a number, a text or bytes.  A text is stored as bytes too, and
nothing keeps them from being no UTF-8; such a text is `garbled`.  A column with an affinity turns what is
put into it into its own kind where nothing is lost: `Cell.asInteger` makes integers of whole numbers and
of texts that are numbers, `Cell.asText` makes texts of numbers.  A NaN cannot be stored and becomes
nothing.

Cells are compared across kinds: an absent value compares with nothing, numbers come before texts, and
texts before bytes.  In arithmetic a text counts as the number at its front.  A cell is a moment in
seconds if it is a number, or a text or bytes that spell one, and has a year if that moment lies between
the years -4713 and 9999.
-/

set_option autoImplicit false

namespace ShareStreaks

inductive Cell where
  | null
  | integer (n : Int)
  | real (x : Binary64)
  | text (s : String)
  /-- A text whose bytes are no UTF-8. -/
  | garbled (bytes : List UInt8) (h : String.fromUTF8? ⟨bytes.toArray⟩ = none)
  | blob (bytes : List UInt8)
deriving DecidableEq

/-- The kinds of cells. -/
inductive CellKind where
  | null
  | integer
  | real
  | text
  | blob
deriving DecidableEq

namespace Cell

def kind : Cell → CellKind
  | .null => .null
  | .integer _ => .integer
  | .real _ => .real
  | .text _ | .garbled .. => .text
  | .blob _ => .blob

/-- A text of the given bytes. -/
def ofTextBytes (bytes : List UInt8) : Cell :=
  match h : String.fromUTF8? ⟨bytes.toArray⟩ with
  | some s => .text s
  | none => .garbled bytes h

/-- A number as a cell. -/
def ofReal (x : Binary64) : Cell := if x.isNaN then .null else .real x

/-! ## Affinities -/

def fitsWord (n : Int) : Bool := -2 ^ 63 ≤ n && n < 2 ^ 63

/-- A number in a column of integers: an integer if it is one strictly between `-2^63` and `2^63`. -/
def integerOfReal (x : Binary64) : Cell :=
  match x.toInt? with
  | some n => if -2 ^ 63 < n ∧ n < 2 ^ 63 then .integer n else ofReal x
  | none => ofReal x

/-- What a column of integers makes of a cell. -/
def asInteger : Cell → Cell
  | .real x => integerOfReal x
  | .text s =>
    let n := leadingNumber s.toList
    if n.alone then
      match n.integer? with
      | some i => if fitsWord i then .integer i else integerOfReal n.value
      | none => integerOfReal n.value
    else .text s
  | c => c

/-- What a column of texts makes of a cell. -/
def asText : Cell → Cell
  | .integer n => .text (String.ofList (signedDigits n))
  | .real x => .text (String.ofList (realText x))
  | c => c

/-- A text that is a number as that number. -/
def asNumber : Cell → Cell
  | .text s => (Cell.text s).asInteger
  | c => c

def isText (c : Cell) : Bool := c.kind == .text

/-- The bytes of a text. -/
def textBytes : Cell → List UInt8
  | .text s => s.toUTF8.toList
  | .garbled bytes _ => bytes
  | _ => []

/-! ## Comparison -/

/-- The cell is the same as another; nothing is the same as an absent value. -/
def equals : Cell → Cell → Bool
  | .integer m, .integer n => m == n
  | .integer n, .real x => n * Binary64.one == x.value
  | .real x, .integer n => x.value == n * Binary64.one
  | .real x, .real y => x.value == y.value
  | .text s, .text t => s == t
  | .garbled s _, .garbled t _ => s == t
  | .blob s, .blob t => s == t
  | _, _ => false

/-- The cell comes after another. -/
def after : Cell → Cell → Bool
  | .null, _ | _, .null => false
  | .integer m, .integer n => n < m
  | .integer m, .real x => x.value < m * Binary64.one
  | .real x, .integer n => n * Binary64.one < x.value
  | .real x, .real y => y.value < x.value
  | .integer _, _ | .real _, _ => false
  | .text s, .text t => t < s
  | .text _, .blob _ | .garbled .., .blob _ => false
  | .text s, .garbled t _ => t < (Cell.text s).textBytes
  | .garbled s _, .text t => (Cell.text t).textBytes < s
  | .garbled s _, .garbled t _ => t < s
  | .text _, _ | .garbled .., _ => true
  | .blob s, .blob t => t < s
  | .blob _, _ => true

/-! ## Arithmetic -/

/-- Bytes as characters up to the first zero, each byte being one. -/
def blobChars (bytes : List UInt8) : List Char :=
  (bytes.takeWhile (· != 0)).map fun b => Char.ofNat b.toNat

/-- The cell as a number. -/
def number : Cell → Option Binary64
  | .null => none
  | .integer n => some (.ofInt n)
  | .real x => some x
  | .text s => some (leadingNumber s.toList).value
  | .garbled bytes _ | .blob bytes => some (leadingNumber (blobChars bytes)).value

/-- A cell divided by another as numbers; nothing if either is absent, if the divisor is zero, or if
the quotient is not a number. -/
def quotient (a b : Cell) : Option Binary64 := do
  let x ← a.number
  let y ← b.number
  let q := x.div y
  if y.isZero || q.isNaN then none else some q

/-! ## Moments -/

/-- The year of a number of milliseconds from the beginning of 1970. -/
def yearOfMilliseconds (ms : Int) : Int := yearOfDay (ms / 86400000)

/-- The first moment that has a year, in seconds, and the first one after it that has none. -/
def firstMoment : Int := -210866760000

def endOfMoments : Int := 253402300800

/-- The year of a number of seconds, rounded to milliseconds counted from `firstMoment` on. -/
def yearOfReal (seconds : Binary64) : Option Int :=
  let ms := (seconds.times 1000).plus (-1000 * firstMoment)
  let rounded := (2 * ms.value + Binary64.one) / (2 * Binary64.one)
  if ms.isFinite && 0 ≤ ms.value && rounded < 1000 * (endOfMoments - firstMoment) then
    some (yearOfMilliseconds (rounded + 1000 * firstMoment))
  else none

/-- The year of a moment that is spelled in characters, which end before the character zero. -/
def yearOfSpelled (cs : List Char) : Option Int :=
  let n := leadingNumber (cs.takeWhile (· != '\x00'))
  if n.alone then yearOfReal n.value else none

/-- The year that the moment in a cell lies in. -/
def year : Cell → Option Int
  | .integer n => if firstMoment ≤ n ∧ n < endOfMoments then some (yearOfDay (n / 86400)) else none
  | .real x => yearOfReal x
  | .garbled bytes _ | .blob bytes => yearOfSpelled (blobChars bytes)
  | .text s => yearOfSpelled s.toList
  | .null => none

end Cell
end ShareStreaks
