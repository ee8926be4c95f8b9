import Mathlib.Algebra.GroupWithZero.Nat
import ShareStreaks.Calendar.Cutoff
import ShareStreaks.Proofs.Calendar.Year
import ShareStreaks.Proofs.Decimal.Digits

/-!
# Dates as cutoffs

A date that can be read is a day of its year: counted off from the first of January it stays within the
months (`Date.yearOfDay_dayNumber`).

A text that is read as a date is no number, which would be tried first: behind its first character there
is a hyphen, and in a number there are only digits.  So the cutoff is the beginning of that day
(`readCutoff_of_readDate`).
-/

set_option autoImplicit false

namespace ShareStreaks

/-! ## Days of a year -/

/-- A year lasts as long as its months together. -/
theorem firstDayOf_add_one_eq_sum (year : Int) :
    firstDayOf (year + 1) = firstDayOf year + (monthLengths year).sum := by
  rw [firstDayOf_add_one, monthLengths]
  split <;> rfl

namespace Date

variable {d : Date}

/-- The days up to a day of the year are not more than there are in all months. -/
theorem daysBefore_add_day_le (h : d.Valid) :
    d.daysBefore + d.day ≤ (monthLengths d.year).sum := by
  obtain ⟨-, -, length, hlength, hday⟩ := h
  have hmonth : ((monthLengths d.year).take (d.month - 1 + 1)).sum = d.daysBefore + length := by
    rw [List.take_add_one, hlength, List.sum_append, daysBefore, List.sum_eq_foldl]
    simp
  have hall : ((monthLengths d.year).take (d.month - 1 + 1)).sum +
      ((monthLengths d.year).drop (d.month - 1 + 1)).sum = (monthLengths d.year).sum := by
    rw [← List.sum_append, List.take_append_drop]
  omega

/-- **A date is a day of its year.** -/
theorem yearOfDay_dayNumber (h : d.Valid) : yearOfDay d.dayNumber = d.year := by
  have hday := h.2.1
  have hdays := daysBefore_add_day_le h
  rw [yearOfDay_eq_iff, dayNumber, firstDayOf_add_one_eq_sum]
  omega

end Date

/-! ## Reading a date -/

variable {cs rest : List Char} {width n m : Nat} {d : Date}

theorem readPartDigits_suffix (h : readPartDigits width n cs = .ok (m, rest)) : rest <:+ cs := by
  induction width generalizing n cs with
  | zero =>
    obtain ⟨-, rfl⟩ := Prod.mk.inj (Except.ok.inj h)
    exact List.suffix_rfl
  | succ width ih =>
    cases cs with
    | nil =>
      obtain ⟨-, rfl⟩ := Prod.mk.inj (Except.ok.inj h)
      exact List.suffix_rfl
    | cons c cs =>
      simp only [readPartDigits] at h
      split at h
      · split at h
        · exact (ih h).trans (List.suffix_cons c cs)
        · exact nomatch h
      · obtain ⟨-, rfl⟩ := Prod.mk.inj (Except.ok.inj h)
        exact List.suffix_rfl

theorem readPart_suffix (h : readPart width cs = .ok (m, rest)) : rest <:+ cs := by
  cases cs with
  | nil => exact nomatch h
  | cons c cs =>
    simp only [readPart] at h
    split at h
    · exact readPartDigits_suffix h
    · exact nomatch h

/-- A number that may have a digit has one. -/
theorem readPart_suffix_tail (h : readPart (width + 1) cs = .ok (m, rest)) : rest <:+ cs.tail := by
  cases cs with
  | nil => exact nomatch h
  | cons c cs =>
    simp only [readPart] at h
    split at h
    · rename_i hc
      simp only [readPartDigits, if_pos hc] at h
      split at h
      · exact readPartDigits_suffix h
      · exact nomatch h
    · exact nomatch h

/-- A reading whose parts are read one after the other has read each of them. -/
theorem exists_of_bind_eq_ok {ε α β : Type} {part : Except ε α} {next : α → Except ε β} {b : β}
    (h : part >>= next = .ok b) : ∃ a, part = .ok a ∧ next a = .ok b := by
  cases part with
  | error fault => exact nomatch h
  | ok a => exact ⟨a, rfl, h⟩

theorem readYear_sublist_tail {year : Int} (h : readYear cs = .ok (year, rest)) :
    rest.Sublist cs.tail := by
  -- the sign does not matter for what comes after the year
  have hread (sign : Nat → Int) {part : Except DateFault (Nat × List Char)}
      {next : Int × List Char → Except DateFault (Int × List Char)}
      (hnext : ∀ read, next read = if -2 ^ 31 ≤ read.1 ∧ read.1 < 2 ^ 31 then .ok (read.1, read.2)
        else .error .outOfRange)
      (hyear : (part.map fun read => (sign read.1, read.2)) >>= next = .ok (year, rest)) :
      ∃ n, part = .ok (n, rest) := by
    obtain ⟨read, hmap, hchecked⟩ := exists_of_bind_eq_ok hyear
    cases part with
    | error fault => exact nomatch hmap
    | ok part =>
      rw [hnext, ← Except.ok.inj hmap] at hchecked
      split at hchecked
      · obtain ⟨-, rfl⟩ := Prod.mk.inj (Except.ok.inj hchecked)
        exact ⟨part.1, rfl⟩
      · exact nomatch hchecked
  have htail : (trimStart cs).tail.Sublist cs.tail := (List.dropWhile_suffix isBlank).sublist.tail
  rw [readYear] at h
  split at h
  · rename_i hcs
    obtain ⟨n, hpart⟩ := hread (fun n => -n) (fun _ => rfl) h
    rw [hcs] at htail
    exact (readPart_suffix hpart).sublist.trans htail
  · rename_i hcs
    obtain ⟨n, hpart⟩ := hread (fun n => n) (fun _ => rfl) h
    rw [hcs] at htail
    exact (readPart_suffix hpart).sublist.trans htail
  · obtain ⟨n, hpart⟩ := hread (fun n => n) (fun _ => rfl) h
    exact (readPart_suffix_tail hpart).sublist.trans htail

theorem readHyphen_eq_ok (h : readHyphen cs = .ok rest) : cs = '-' :: rest := by
  cases cs with
  | nil => exact nomatch h
  | cons c cs =>
    rw [readHyphen] at h
    split at h
    · rename_i hc
      rw [hc, Except.ok.inj h]
    · exact nomatch h

/-- A date that is read is one, and is written with a hyphen behind its first character. -/
theorem readDate_eq_ok (h : readDate cs = .ok d) : d.Valid ∧ '-' ∈ cs.tail := by
  rw [readDate] at h
  obtain ⟨⟨year, afterYear⟩, hyear, h⟩ := exists_of_bind_eq_ok h
  obtain ⟨beforeMonth, hhyphen, h⟩ := exists_of_bind_eq_ok h
  obtain ⟨⟨month, afterMonth⟩, -, h⟩ := exists_of_bind_eq_ok h
  obtain ⟨beforeDay, -, h⟩ := exists_of_bind_eq_ok h
  obtain ⟨⟨day, afterDay⟩, -, h⟩ := exists_of_bind_eq_ok h
  have hmem : '-' ∈ afterYear := by
    rw [readHyphen_eq_ok hhyphen]
    exact List.mem_cons_self
  simp only at h
  split at h
  · split at h
    · rename_i hvalid
      rw [← Except.ok.inj h]
      exact ⟨hvalid.1, (readYear_sublist_tail hyear).mem hmem⟩
    · exact nomatch h
  · exact nomatch h

/-! ## Reading a cutoff -/

theorem tail_sublist_splitSign (cs : List Char) : cs.tail.Sublist (splitSign cs).2 := by
  unfold splitSign
  split
  · exact List.Sublist.refl _
  · exact List.Sublist.refl _
  · exact List.tail_sublist cs

/-- Only the first character of a number may be anything but a digit. -/
theorem isDigits_tail_of_readInteger {n : Int} (h : readInteger cs = .ok n) : IsDigits cs.tail := by
  have hmap {limit : Nat} {fault : IntegerFault} {ds : List Char} (sign : Nat → Int)
      (h : (readDigits limit fault ⟨0, Nat.zero_le _⟩ ds).map (fun n => sign n.1) = .ok n) :
      IsDigits ds := by
    cases hread : readDigits limit fault ⟨0, Nat.zero_le _⟩ ds with
    | error fault =>
      rw [hread] at h
      cases h
    | ok m => exact (readDigits_eq_ok_iff.1 hread).1
  have hdigits : IsDigits (splitSign cs).2 := by
    simp only [readInteger] at h
    split at h
    · cases h
    · split at h
      · cases h
      · split at h
        · exact hmap (fun n => -n) h
        · exact hmap (fun n => n) h
  exact fun c hc => hdigits c ((tail_sublist_splitSign cs).mem hc)

/-- **A date is read as the beginning of its day.** -/
theorem readCutoff_of_readDate {text : String} (h : readDate (trim text.toList) = .ok d) :
    readCutoff text = .ok (d.dayNumber * secondsPerDay) := by
  rw [readCutoff]
  cases hread : readInteger (trim text.toList) with
  | ok n =>
    have hdigit := isDigits_tail_of_readInteger hread _ (readDate_eq_ok h).2
    exact absurd hdigit (by decide)
  | error fault => simp [h]

end ShareStreaks
