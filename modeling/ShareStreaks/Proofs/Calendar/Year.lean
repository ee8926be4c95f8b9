import ShareStreaks.Calendar.Date

/-!
# Years

Days are counted from the first day of 1970 (`firstDayOf_1970`).  The days of a year follow those of
the year before, and there are 365 of them, or 366 in a leap year (`firstDayOf_add_one`).  So every day
lies in exactly one year, and `yearOfDay` finds it (`yearOfDay_eq_iff`).
-/

set_option autoImplicit false

namespace ShareStreaks

theorem firstDayOf_1970 : firstDayOf 1970 = 0 := rfl

theorem firstDayOf_add_one (year : Int) :
    firstDayOf (year + 1) = firstDayOf year + if isLeapYear year then 366 else 365 := by
  simp only [firstDayOf, daysBeforeYear, isLeapYear, Bool.and_eq_true, Bool.or_eq_true, beq_iff_eq,
    bne_iff_ne]
  split <;> omega

theorem firstDayOf_mono {a b : Int} (h : a ≤ b) : firstDayOf a ≤ firstDayOf b := by
  simp only [firstDayOf, daysBeforeYear]
  omega

theorem firstDayOf_yearOfDay (day : Int) :
    firstDayOf (yearOfDay day) ≤ day ∧ day < firstDayOf (yearOfDay day + 1) := by
  -- the guess is at most one off
  have hguess : firstDayOf ((day + daysBeforeYear 1970) * 400 / 146097 + 1 - 1) ≤ day ∧
      day < firstDayOf ((day + daysBeforeYear 1970) * 400 / 146097 + 1 + 1 + 1) := by
    simp only [firstDayOf, daysBeforeYear]
    omega
  simp only [yearOfDay]
  split
  · rename_i hlt
    rw [Int.sub_add_cancel]
    exact ⟨hguess.1, hlt⟩
  · rename_i hge
    split
    · rename_i hnext
      exact ⟨hnext, hguess.2⟩
    · rename_i hnext
      exact ⟨Int.not_lt.1 hge, Int.not_le.1 hnext⟩

/-- **A day lies in the year that it is found to lie in, and in no other.** -/
theorem yearOfDay_eq_iff {day year : Int} :
    yearOfDay day = year ↔ firstDayOf year ≤ day ∧ day < firstDayOf (year + 1) := by
  have hfound := firstDayOf_yearOfDay day
  refine ⟨fun h => h ▸ hfound, fun h => ?_⟩
  rcases Int.lt_trichotomy (yearOfDay day) year with hlt | heq | hgt
  · have := firstDayOf_mono (Int.add_one_le_of_lt hlt)
    omega
  · exact heq
  · have := firstDayOf_mono (Int.add_one_le_of_lt hgt)
    omega

theorem yearOfDay_mono {a b : Int} (h : a ≤ b) : yearOfDay a ≤ yearOfDay b := by
  refine Int.not_lt.1 fun hlt => ?_
  have hnext := firstDayOf_mono (Int.add_one_le_of_lt hlt)
  have ha := (firstDayOf_yearOfDay a).1
  have hb := (firstDayOf_yearOfDay b).2
  omega

end ShareStreaks
