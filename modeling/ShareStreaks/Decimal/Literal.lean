import ShareStreaks.Decimal.Basic

/-!
# Reading numbers

`readBinary64` reads a decimal literal as the nearest `Binary64`: an optional sign, then digits with at
most one point among them and at least one digit, then optionally `e` or `E` and a signed exponent; or
`inf`, `infinity` or `nan` in letters of either case.

`readNatural` and `readInteger` read the whole numbers that fit 64 bits, unsigned and signed.  They go
through the text from the left, so of a text with two faults the first one is reported: a number too
large is found out at the digit that makes it so.
-/

set_option autoImplicit false

namespace ShareStreaks

/-! ## Signs -/

/-- A leading sign, `true` for a minus, and the rest. -/
def splitSign : List Char → Bool × List Char
  | '-' :: cs => (true, cs)
  | '+' :: cs => (false, cs)
  | cs => (false, cs)

/-! ## Decimal literals -/

inductive LiteralFault where
  | empty
  | malformed
deriving DecidableEq

def LiteralFault.message : LiteralFault → String
  | .empty => "cannot parse float from empty string"
  | .malformed => "invalid float literal"

/-- The exponent after the digits of a literal; nothing there means zero. -/
def readExponent : List Char → Option Int
  | [] => some 0
  | c :: cs =>
    let (negative, ds) := splitSign cs
    if (c == 'e' || c == 'E') && !ds.isEmpty && ds.all Char.isDigit then
      some (if negative then -(ofDigits ds) else ofDigits ds)
    else none

/-- The digits after a point, if there is a point, and what follows them. -/
def splitFraction : List Char → List Char × List Char
  | '.' :: cs => (cs.takeWhile Char.isDigit, cs.dropWhile Char.isDigit)
  | cs => ([], cs)

/-- An unsigned literal made of digits. -/
def readDecimal (cs : List Char) : Option Decimal :=
  let whole := cs.takeWhile Char.isDigit
  let (fraction, rest) := splitFraction (cs.dropWhile Char.isDigit)
  if whole.isEmpty && fraction.isEmpty then none
  else (readExponent rest).map fun e => ⟨ofDigits (whole ++ fraction), e - fraction.length⟩

/-- A literal made of letters, in lower case. -/
def readSpecial (negative : Bool) (cs : List Char) : Option Binary64 :=
  if cs = ['i', 'n', 'f'] ∨ cs = ['i', 'n', 'f', 'i', 'n', 'i', 't', 'y'] then
    some (.infinity negative)
  else if cs = ['n', 'a', 'n'] then some { Binary64.notANumber with negative := negative }
  else none

def readBinary64 (cs : List Char) : Except LiteralFault Binary64 :=
  if cs.isEmpty then .error .empty
  else
    let (negative, rest) := splitSign cs
    match readDecimal rest with
    | some d => .ok (d.nearest negative)
    | none =>
      match readSpecial negative (rest.map Char.toLower) with
      | some x => .ok x
      | none => .error .malformed

/-! ## Whole numbers -/

inductive IntegerFault where
  | empty
  | invalidDigit
  | tooLarge
  | tooSmall
deriving DecidableEq

def IntegerFault.message : IntegerFault → String
  | .empty => "cannot parse integer from empty string"
  | .invalidDigit => "invalid digit found in string"
  | .tooLarge => "number too large to fit in target type"
  | .tooSmall => "number too small to fit in target type"

/-- Reads digits after the number read so far; `fault` answers for a number above `limit`. -/
def readDigits (limit : Nat) (fault : IntegerFault) (n : { n : Nat // n ≤ limit }) :
    List Char → Except IntegerFault { n : Nat // n ≤ limit }
  | [] => .ok n
  | c :: cs =>
    if c.isDigit then
      if h : 10 * n.1 + (c.toNat - '0'.toNat) ≤ limit then readDigits limit fault ⟨_, h⟩ cs
      else .error fault
    else .error .invalidDigit

/-- The least natural number that 64 bits do not hold. -/
def wordSize : Nat := 2 ^ 64

/-- Reads a natural number below `2^64`, with or without a plus sign. -/
def readNatural (cs : List Char) : Except IntegerFault { n : Nat // n ≤ wordSize - 1 } :=
  let ds := match cs with
    | '+' :: ds => ds
    | _ => cs
  if cs.isEmpty then .error .empty
  else if ds.isEmpty then .error .invalidDigit
  else readDigits _ .tooLarge ⟨0, Nat.zero_le _⟩ ds

/-- Reads an integer from `-2^63` to `2^63 - 1`, with or without a sign. -/
def readInteger (cs : List Char) : Except IntegerFault Int :=
  let (negative, ds) := splitSign cs
  if cs.isEmpty then .error .empty
  else if ds.isEmpty then .error .invalidDigit
  else if negative then
    (readDigits (2 ^ 63) .tooSmall ⟨0, Nat.zero_le _⟩ ds).map fun n => -(n.1 : Int)
  else (readDigits (2 ^ 63 - 1) .tooLarge ⟨0, Nat.zero_le _⟩ ds).map fun n => (n.1 : Int)

end ShareStreaks
