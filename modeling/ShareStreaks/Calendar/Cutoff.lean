import ShareStreaks.Calendar.Date
import ShareStreaks.Decimal.Literal
import ShareStreaks.Text.Blank

/-!
# Cutoffs

A cutoff is a moment in seconds from the beginning of 1970.  It is given as that number, or as a date
`year-month-day`, which means the beginning of the day.

Dates are read part by part, blanks before each number being skipped.  A year without a sign has at
most four digits, a signed one any number; month and day have at most two.  Each part is checked as soon
as it is read, so the fault reported is the leftmost one; that the month has the day, and that the year
lies within the range of dates, is checked at the end.

`describeMoment` shows a moment as its date.
-/

set_option autoImplicit false

namespace ShareStreaks

/-- Why a text is not a date. -/
inductive DateFault where
  | invalidCharacter
  | tooShort
  | trailing
  | outOfRange
deriving DecidableEq

def DateFault.message : DateFault → String
  | .invalidCharacter => "input contains invalid characters"
  | .tooShort => "premature end of input"
  | .trailing => "trailing input"
  | .outOfRange => "input is out of range"

/-! ## The parts of a date -/

/-- Adds up the digits at the front of a text, at most `width` of them; a sum of `2^63` is out of
range. -/
def readPartDigits : Nat → Nat → List Char → Except DateFault (Nat × List Char)
  | 0, n, cs => .ok (n, cs)
  | _ + 1, n, [] => .ok (n, [])
  | width + 1, n, c :: cs =>
    if c.isDigit then
      let m := 10 * n + (c.toNat - '0'.toNat)
      if m < 2 ^ 63 then readPartDigits width m cs else .error .outOfRange
    else .ok (n, c :: cs)

/-- A number of one to `width` digits at the front of a text, and the rest of the text. -/
def readPart (width : Nat) (cs : List Char) : Except DateFault (Nat × List Char) :=
  match cs with
  | [] => .error .tooShort
  | c :: _ => if c.isDigit then readPartDigits width 0 cs else .error .invalidCharacter

/-- The year, whose value has to fit 32 bits. -/
def readYear (cs : List Char) : Except DateFault (Int × List Char) := do
  let cs := trimStart cs
  let (year, rest) ← match cs with
    | '-' :: ds => (readPart ds.length ds).map fun (n, rest) => (-(n : Int), rest)
    | '+' :: ds => (readPart ds.length ds).map fun (n, rest) => ((n : Int), rest)
    | _ => (readPart 4 cs).map fun (n, rest) => ((n : Int), rest)
  if -2 ^ 31 ≤ year ∧ year < 2 ^ 31 then .ok (year, rest) else .error .outOfRange

/-- A month or a day: a number of at most two digits from one up to the given bound. -/
def readBoundedPart (bound : Nat) (cs : List Char) : Except DateFault (Nat × List Char) := do
  let (n, rest) ← readPart 2 (trimStart cs)
  if 1 ≤ n ∧ n ≤ bound then .ok (n, rest) else .error .outOfRange

def readHyphen : List Char → Except DateFault (List Char)
  | [] => .error .tooShort
  | c :: cs => if c = '-' then .ok cs else .error .invalidCharacter

/-- The years that dates are known for. -/
def firstYear : Int := -262143

def lastYear : Int := 262142

def readDate (cs : List Char) : Except DateFault Date := do
  let (year, cs) ← readYear cs
  let cs ← readHyphen cs
  let (month, cs) ← readBoundedPart 12 cs
  let cs ← readHyphen cs
  let (day, cs) ← readBoundedPart 31 cs
  if cs.isEmpty then
    let d : Date := ⟨year, month, day⟩
    if d.Valid ∧ firstYear ≤ year ∧ year ≤ lastYear then .ok d else .error .outOfRange
  else .error .trailing

/-! ## Cutoffs -/

def secondsPerDay : Int := 86400

/-- The text is neither a number nor a date, for the given reason. -/
structure CutoffFault where
  text : String
  cause : DateFault
deriving DecidableEq

def CutoffFault.messages (f : CutoffFault) : List String :=
  ["'" ++ f.text ++ "' is neither a unix timestamp nor a YYYY-MM-DD date", f.cause.message]

/-- Reads a cutoff, blanks around it being ignored. -/
def readCutoff (text : String) : Except CutoffFault Int :=
  let cs := trim text.toList
  match readInteger cs with
  | .ok n => .ok n
  | .error _ =>
    match readDate cs with
    | .ok d => .ok (d.dayNumber * secondsPerDay)
    | .error cause => .error ⟨String.ofList cs, cause⟩

/-! ## Showing a moment -/

/-- A year with four digits, or with a sign if it does not have four digits at most. -/
def shownYear (year : Int) : List Char :=
  if 0 ≤ year ∧ year ≤ 9999 then padded 4 year.toNat
  else (if year < 0 then '-' else '+') :: padded 4 year.natAbs

def Date.description (d : Date) : String :=
  d.monthName ++ String.ofList (' ' :: (digits d.day ++ ',' :: ' ' :: shownYear d.year))

/-- The date of a moment, or the number of seconds if it lies outside the range of dates. -/
def describeMoment (seconds : Int) : String :=
  let d := Date.ofDayNumber (seconds / secondsPerDay)
  if firstYear ≤ d.year ∧ d.year ≤ lastYear then d.description
  else "timestamp " ++ String.ofList (signedDigits seconds)

end ShareStreaks
