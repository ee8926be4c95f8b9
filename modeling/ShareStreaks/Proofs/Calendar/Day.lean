import Mathlib.Logic.Function.Iterate
import ShareStreaks.Proofs.Calendar.Cutoff

/-!
# Days one after the other

What the number of a day is can be said without any arithmetic of years: `Date.next` is the day after a
date, and a day has the number `n` if one gets to it from the first of January 1970 in `n` steps, or
from it to there in `-n` (`Date.IsDaysTo`).

`Date.dayNumber` grows by one with each step (`Date.dayNumber_next`), so it counts these steps
(`Date.isDaysTo_iff`).  `Date.ofDayNumber` undoes it: every number belongs to a date
(`Date.ofDayNumber_spec`), and a date is found again from its number
(`Date.ofDayNumber_dayNumber`).
-/

set_option autoImplicit false

namespace ShareStreaks

/-! ## Counting off -/

/-- What is counted off are the lengths before the one that the rest lies in. -/
theorem countOff_take_sum {lengths : List Nat} {k n length : Nat} (hk : lengths[k]? = some length)
    (hn : n < length) : countOff lengths ((lengths.take k).sum + n) = (k, n) := by
  induction lengths generalizing k with
  | nil => exact nomatch hk
  | cons first rest ih =>
    cases k with
    | zero =>
      rw [List.getElem?_cons_zero, Option.some_inj] at hk
      rw [List.take_zero, List.sum_nil, Nat.zero_add, countOff, if_pos (hk ▸ hn)]
    | succ k =>
      rw [List.getElem?_cons_succ] at hk
      rw [List.take_succ_cons, List.sum_cons, countOff, if_neg (by omega),
        show first + (rest.take k).sum + n - first = (rest.take k).sum + n by omega, ih hk]

/-- As long as there are lengths left, the rest lies in one of them. -/
theorem exists_length_of_countOff {lengths : List Nat} {n : Nat} (h : n < lengths.sum) :
    ∃ k left length, countOff lengths n = (k, left) ∧ lengths[k]? = some length ∧ left < length ∧
      (lengths.take k).sum + left = n := by
  induction lengths generalizing n with
  | nil => exact absurd h (Nat.not_lt_zero n)
  | cons first rest ih =>
    rw [List.sum_cons] at h
    by_cases hn : n < first
    · refine ⟨0, n, first, by rw [countOff, if_pos hn], rfl, hn, ?_⟩
      rw [List.take_zero, List.sum_nil, Nat.zero_add]
    · obtain ⟨k, left, length, hcount, hk, hleft, hsum⟩ := ih (n := n - first) (by omega)
      refine ⟨k + 1, left, length, by rw [countOff, if_neg hn, hcount], hk, hleft, ?_⟩
      rw [List.take_succ_cons, List.sum_cons]
      omega

/-! ## Months -/

theorem length_monthLengths (year : Int) : (monthLengths year).length = 12 := rfl

theorem bounds_of_mem_monthLengths {year : Int} {length : Nat} (h : length ∈ monthLengths year) :
    28 ≤ length ∧ length ≤ 31 := by
  have hall : ∀ l ∈ monthLengths year, 28 ≤ l ∧ l ≤ 31 := by
    rw [monthLengths]
    split <;> decide
  exact hall length h

namespace Date

variable {d e : Date}

theorem Valid.month_le (h : d.Valid) : d.month ≤ 12 := by
  obtain ⟨-, -, length, hlength, -⟩ := h
  have hlt := (List.getElem?_eq_some_iff.1 hlength).1
  rw [length_monthLengths] at hlt
  omega

theorem Valid.day_le (h : d.Valid) : d.day ≤ 31 := by
  obtain ⟨-, -, length, hlength, hday⟩ := h
  exact Nat.le_trans hday (bounds_of_mem_monthLengths (List.mem_of_getElem? hlength)).2

/-- The first of a month is a day. -/
theorem valid_first (year : Int) {month : Nat} (h : 1 ≤ month) (h' : month ≤ 12) :
    Valid ⟨year, month, 1⟩ := by
  have hlt : month - 1 < (monthLengths year).length := by rw [length_monthLengths]; omega
  refine ⟨h, Nat.le_refl 1, _, List.getElem?_eq_getElem hlt, ?_⟩
  have hbounds := bounds_of_mem_monthLengths (List.getElem_mem hlt)
  show 1 ≤ (monthLengths year)[month - 1]
  omega

theorem daysBefore_eq (d : Date) :
    d.daysBefore = ((monthLengths d.year).take (d.month - 1)).sum := by
  rw [daysBefore, List.sum_eq_foldl]

/-- Before the next month there are the days of the month as well. -/
theorem daysBefore_succ (year : Int) {month : Nat} (h : 1 ≤ month) (h' : month ≤ 12) (day day' : Nat) :
    daysBefore ⟨year, month + 1, day⟩ =
      daysBefore ⟨year, month, day'⟩ + monthLength ⟨year, month, day⟩ := by
  have hlt : month - 1 < (monthLengths year).length := by rw [length_monthLengths]; omega
  rw [daysBefore_eq, daysBefore_eq, monthLength]
  simp only
  rw [show month + 1 - 1 = month - 1 + 1 by omega, List.take_add_one, List.sum_append,
    List.getElem?_eq_getElem hlt]
  simp

/-! ## The day after -/

/-- The day after a date. -/
def next (d : Date) : Date :=
  if d.day < d.monthLength then ⟨d.year, d.month, d.day + 1⟩
  else if d.month < 12 then ⟨d.year, d.month + 1, 1⟩
  else ⟨d.year + 1, 1, 1⟩

theorem Valid.next (h : d.Valid) : d.next.Valid := by
  rw [Date.next]
  split
  · rename_i hday
    exact valid_iff.2 ⟨h.1, Nat.le_add_left 1 _, hday⟩
  · split
    · rename_i hmonth
      exact valid_first _ (Nat.le_add_left 1 _) hmonth
    · exact valid_first _ (Nat.le_refl 1) (by decide)

/-- **The day after has the next number.** -/
theorem dayNumber_next (h : d.Valid) : d.next.dayNumber = d.dayNumber + 1 := by
  obtain ⟨year, month, day⟩ := d
  obtain ⟨hmonth, -, hday⟩ := valid_iff.1 h
  have hmonth' := h.month_le
  simp only at hmonth hday hmonth'
  rw [Date.next]
  simp only
  split
  · simp only [dayNumber, daysBefore]
    omega
  · split
    · have hbefore := daysBefore_succ year hmonth hmonth' day day
      simp only [dayNumber] at *
      have hday' : daysBefore ⟨year, month + 1, 1⟩ = daysBefore ⟨year, month + 1, day⟩ := rfl
      omega
    -- the last day of December: all the months are over
    · obtain rfl : month = 12 := by omega
      have hbefore := daysBefore_succ year hmonth hmonth' day day
      have hall : daysBefore ⟨year, 12 + 1, day⟩ = (monthLengths year).sum := by
        rw [daysBefore_eq]
        rfl
      have hfirst : daysBefore ⟨year + 1, 1, 1⟩ = 0 := rfl
      simp only [dayNumber]
      rw [firstDayOf_add_one_eq_sum, hfirst]
      omega

/-- Some days later. -/
theorem Valid.iterate_next (h : d.Valid) (n : Nat) : (Date.next^[n] d).Valid := by
  induction n with
  | zero => exact h
  | succ n ih =>
    rw [Function.iterate_succ_apply']
    exact ih.next

theorem dayNumber_iterate_next (h : d.Valid) (n : Nat) :
    (Date.next^[n] d).dayNumber = d.dayNumber + n := by
  induction n with
  | zero => exact (Int.add_zero _).symm
  | succ n ih =>
    rw [Function.iterate_succ_apply', dayNumber_next (h.iterate_next n), ih]
    omega

/-! ## There and back -/

/-- **A date is found again from its number.** -/
theorem ofDayNumber_dayNumber (h : d.Valid) : ofDayNumber d.dayNumber = d := by
  have hyear := yearOfDay_dayNumber h
  obtain ⟨hmonth, hday, length, hlength, hle⟩ := h
  have hcount : countOff (monthLengths d.year) (d.dayNumber - firstDayOf d.year).toNat =
      (d.month - 1, d.day - 1) := by
    rw [← countOff_take_sum hlength (show d.day - 1 < length by omega), ← daysBefore_eq, dayNumber]
    congr 1
    omega
  rw [ofDayNumber, hyear, hcount]
  simp only
  rw [Nat.sub_add_cancel hmonth, Nat.sub_add_cancel hday]

/-- **Every number is the number of a date.** -/
theorem ofDayNumber_spec (day : Int) :
    (ofDayNumber day).Valid ∧ (ofDayNumber day).dayNumber = day := by
  obtain ⟨hfirst, hnext⟩ := firstDayOf_yearOfDay day
  rw [firstDayOf_add_one_eq_sum] at hnext
  have hlt : (day - firstDayOf (yearOfDay day)).toNat < (monthLengths (yearOfDay day)).sum := by
    omega
  obtain ⟨k, left, length, hcount, hk, hleft, hsum⟩ := exists_length_of_countOff hlt
  have hdate : ofDayNumber day = ⟨yearOfDay day, k + 1, left + 1⟩ := by
    rw [ofDayNumber, hcount]
  rw [hdate]
  refine ⟨⟨Nat.le_add_left 1 k, Nat.le_add_left 1 left, length, hk, hleft⟩, ?_⟩
  rw [dayNumber, daysBefore_eq]
  simp only [Nat.add_sub_cancel]
  omega

theorem eq_of_dayNumber_eq (hd : d.Valid) (he : e.Valid) (h : d.dayNumber = e.dayNumber) :
    d = e := by
  rw [← ofDayNumber_dayNumber hd, h, ofDayNumber_dayNumber he]

/-! ## Days between dates -/

/-- The first of January 1970. -/
def epoch : Date := ⟨1970, 1, 1⟩

/-- It is so many days from the one date to the other, gone through one after the other; if the other
one is earlier, the number is negative. -/
def IsDaysTo (d e : Date) (n : Int) : Prop := next^[n.toNat] d = next^[(-n).toNat] e

/-- **Day numbers count days.** -/
theorem isDaysTo_iff (hd : d.Valid) (he : e.Valid) {n : Int} :
    d.IsDaysTo e n ↔ e.dayNumber = d.dayNumber + n := by
  have hd' := dayNumber_iterate_next hd n.toNat
  have he' := dayNumber_iterate_next he (-n).toNat
  constructor
  · intro h
    rw [IsDaysTo] at h
    rw [h] at hd'
    omega
  · intro h
    refine eq_of_dayNumber_eq (hd.iterate_next _) (he.iterate_next _) ?_
    omega

theorem valid_epoch : epoch.Valid := by decide

theorem isDaysTo_epoch_iff (h : d.Valid) {n : Int} : epoch.IsDaysTo d n ↔ d.dayNumber = n := by
  have hzero : epoch.dayNumber = 0 := by decide
  rw [isDaysTo_iff valid_epoch h, hzero, Int.zero_add]

end Date
end ShareStreaks
