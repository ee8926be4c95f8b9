/-!
# Dates

Days are counted from the first of January 1970, which has the number zero, in the Gregorian calendar
carried back before its introduction; the year before year 1 is year 0.

`Date.dayNumber` and `Date.ofDayNumber` convert between dates and day numbers.  Both rest on
`daysBeforeYear`, which is strictly monotone in the year, so `yearOfDay` only has to find the year
between whose bounds a day lies: an estimate from the mean length of a year is at most one off.
-/

set_option autoImplicit false

namespace ShareStreaks

/-! ## Years -/

def isLeapYear (year : Int) : Bool := year % 4 == 0 && (year % 100 != 0 || year % 400 == 0)

/-- The number of days from the beginning of year 1 to the beginning of the year. -/
def daysBeforeYear (year : Int) : Int :=
  let y := year - 1
  365 * y + y / 4 - y / 100 + y / 400

/-- The day number of the first of January. -/
def firstDayOf (year : Int) : Int := daysBeforeYear year - daysBeforeYear 1970

/-- The year that a day lies in. -/
def yearOfDay (day : Int) : Int :=
  let guess := (day + daysBeforeYear 1970) * 400 / 146097 + 1
  if day < firstDayOf guess then guess - 1
  else if firstDayOf (guess + 1) ≤ day then guess + 1
  else guess

/-! ## Months -/

/-- The lengths of the months of a year. -/
def monthLengths (year : Int) : List Nat :=
  [31, if isLeapYear year then 29 else 28, 31, 30, 31, 30, 31, 31, 30, 31, 30, 31]

def monthNames : List String :=
  ["January", "February", "March", "April", "May", "June", "July", "August", "September", "October",
    "November", "December"]

/-- How many of the given lengths fit into `n` days one after the other, and the days left over. -/
def countOff : List Nat → Nat → Nat × Nat
  | [], n => (0, n)
  | length :: rest, n =>
    if n < length then (0, n)
    else
      let (count, left) := countOff rest (n - length)
      (count + 1, left)

/-! ## Dates -/

/-- A day by year, month and day of the month, both counted from one. -/
structure Date where
  year : Int
  month : Nat
  day : Nat
deriving DecidableEq

namespace Date

/-- The year has the month, and the month has the day. -/
def Valid (d : Date) : Prop :=
  1 ≤ d.month ∧ 1 ≤ d.day ∧ ∃ length, (monthLengths d.year)[d.month - 1]? = some length ∧ d.day ≤ length

/-- The length of the month, zero if there is no such month. -/
def monthLength (d : Date) : Nat := (monthLengths d.year)[d.month - 1]?.getD 0

theorem valid_iff {d : Date} : d.Valid ↔ 1 ≤ d.month ∧ 1 ≤ d.day ∧ d.day ≤ d.monthLength := by
  unfold Valid monthLength
  cases h : (monthLengths d.year)[d.month - 1]? with
  | none => simp; omega
  | some length => simp

instance (d : Date) : Decidable d.Valid := decidable_of_iff _ valid_iff.symm

/-- How many days of the year come before the month. -/
def daysBefore (d : Date) : Nat := ((monthLengths d.year).take (d.month - 1)).foldl (· + ·) 0

/-- The number of the day, counted from the first of January 1970. -/
def dayNumber (d : Date) : Int := firstDayOf d.year + d.daysBefore + d.day - 1

/-- The date of a day number. -/
def ofDayNumber (day : Int) : Date :=
  let year := yearOfDay day
  let (months, days) := countOff (monthLengths year) (day - firstDayOf year).toNat
  ⟨year, months + 1, days + 1⟩

def monthName (d : Date) : String := monthNames[d.month - 1]?.getD ""

end Date
end ShareStreaks
