import Mathlib.Data.List.Basic
import ShareStreaks.Proofs.Calendar.Day
import ShareStreaks.Proofs.Text.Blank

/-!
# Dates as they are written

A date may be written in several ways (`Date.IsText`): the month and the day with or without a zero in
front, blanks around the whole, and a year that needs a sign with any number of zeros behind the sign.
Each text is read part by part: the digits of a part are read up to the hyphen behind them or to the end
(`readPart_of_isDigits`), and the parts together are the date (`readDate_of_parts`).  So each text of a
date is read as the beginning of its day (`readCutoff_of_isText`).
-/

set_option autoImplicit false

namespace ShareStreaks

/-! ## Texts of dates -/

/-- The ways to write a year: four digits from year 0 to year 9999, a sign and at least four digits
otherwise. -/
inductive IsYearText (year : Int) : List Char → Prop where
  | plain {ds : List Char} (hds : IsDigits ds) (hlength : ds.length = 4)
      (hvalue : (ofDigits ds : Int) = year) : IsYearText year ds
  | later {ds : List Char} (hds : IsDigits ds) (hlength : 4 ≤ ds.length)
      (hvalue : (ofDigits ds : Int) = year) (hyear : 9999 < year) : IsYearText year ('+' :: ds)
  | earlier {ds : List Char} (hds : IsDigits ds) (hlength : 4 ≤ ds.length)
      (hvalue : -(ofDigits ds : Int) = year) (hyear : year < 0) : IsYearText year ('-' :: ds)

/-- The ways to write a month or a day: with or without a zero in front. -/
def IsPartText (n : Nat) (cs : List Char) : Prop := cs = digits n ∨ cs = padded 2 n

/-- The ways to write a date. -/
inductive Date.IsText (d : Date) : List Char → Prop where
  | intro {before year month day after : List Char} (hyear : IsYearText d.year year)
      (hmonth : IsPartText d.month month) (hday : IsPartText d.day day)
      (hbefore : ∀ c ∈ before, isBlank c = true) (hafter : ∀ c ∈ after, isBlank c = true) :
      d.IsText (before ++ (year ++ '-' :: (month ++ '-' :: day)) ++ after)

/-- No year begins with a blank. -/
theorem IsYearText.eq_cons {year : Int} {cs : List Char} (h : IsYearText year cs) :
    ∃ c rest, cs = c :: rest ∧ isBlank c = false := by
  cases h with
  | plain hds hlength hvalue =>
    have hne : cs ≠ [] := List.ne_nil_of_length_pos (by omega)
    obtain ⟨c, rest, rfl⟩ := List.exists_cons_of_ne_nil hne
    exact ⟨c, rest, rfl, isBlank_eq_false_of_isDigit (hds c List.mem_cons_self)⟩
  | later hds hlength hvalue hyear => exact ⟨'+', _, rfl, by decide⟩
  | earlier hds hlength hvalue hyear => exact ⟨'-', _, rfl, by decide⟩

theorem IsPartText.isDigits {n : Nat} {cs : List Char} (h : IsPartText n cs) : IsDigits cs := by
  rcases h with rfl | rfl
  · exact isDigits_digits n
  · exact isDigits_padded 2 n

theorem IsPartText.ne_nil {n : Nat} {cs : List Char} (h : IsPartText n cs) : cs ≠ [] := by
  rcases h with rfl | rfl
  · exact digits_ne_nil n
  · exact padded_ne_nil 2 n

theorem IsPartText.ofDigits_eq {n : Nat} {cs : List Char} (h : IsPartText n cs) :
    ofDigits cs = n := by
  rcases h with rfl | rfl
  · exact ofDigits_digits n
  · exact ofDigits_padded 2 n

theorem IsPartText.length_le {n : Nat} {cs : List Char} (h : IsPartText n cs) (hn : n < 100) :
    cs.length ≤ 2 := by
  have hlength : (digits n).length ≤ 2 :=
    (Nat.length_toDigits_le_iff (by decide) (by decide)).2 hn
  rcases h with rfl | rfl
  · exact hlength
  · rw [length_padded]
    exact Nat.max_le.2 ⟨Nat.le_refl 2, hlength⟩

/-! ## Reading the parts -/

variable {ds rest : List Char} {width n : Nat} {d : Date}

/-- Digits are read to their end, if there are not too many and no more behind them. -/
theorem readPartDigits_of_isDigits (hds : IsDigits ds) (hwidth : ds.length ≤ width)
    (hrest : ∀ c ∈ rest.head?, c.isDigit = false) (hlt : Nat.ofDigitChars 10 ds n < 2 ^ 63) :
    readPartDigits width n (ds ++ rest) = .ok (Nat.ofDigitChars 10 ds n, rest) := by
  induction ds generalizing width n with
  | nil =>
    cases width with
    | zero => rfl
    | succ width =>
      cases rest with
      | nil => rfl
      | cons c rest =>
        rw [List.nil_append, readPartDigits, if_neg]
        · rfl
        · rw [hrest c rfl]
          exact Bool.false_ne_true
  | cons c ds ih =>
    cases width with
    | zero => exact absurd hwidth (Nat.not_succ_le_zero _)
    | succ width =>
      have hstep : 10 * n + (c.toNat - '0'.toNat) < 2 ^ 63 := by
        rw [Nat.ofDigitChars_cons] at hlt
        exact Nat.lt_of_le_of_lt (le_ofDigitChars ds _) hlt
      rw [List.cons_append, readPartDigits, if_pos (hds c List.mem_cons_self)]
      simp only [hstep, if_true]
      exact ih (fun d hd => hds d (List.mem_cons_of_mem c hd)) (Nat.le_of_succ_le_succ hwidth) hlt

theorem readPart_of_isDigits (hds : IsDigits ds) (hne : ds ≠ []) (hwidth : ds.length ≤ width)
    (hrest : ∀ c ∈ rest.head?, c.isDigit = false) (hlt : ofDigits ds < 2 ^ 63) :
    readPart width (ds ++ rest) = .ok (ofDigits ds, rest) := by
  obtain ⟨c, cs, rfl⟩ := List.exists_cons_of_ne_nil hne
  rw [List.cons_append, readPart, if_pos (hds c List.mem_cons_self), ← List.cons_append]
  exact readPartDigits_of_isDigits hds hwidth hrest hlt

/-- No blanks are skipped in front of digits. -/
theorem trimStart_of_isDigits (hds : IsDigits ds) (hne : ds ≠ []) (rest : List Char) :
    trimStart (ds ++ rest) = ds ++ rest := by
  obtain ⟨c, cs, rfl⟩ := List.exists_cons_of_ne_nil hne
  exact trimStart_cons (isBlank_eq_false_of_isDigit (hds c List.mem_cons_self)) _

/-- The year is read after its sign, and it fits. -/
theorem readYear_of_readPart {cs : List Char} {part : Except DateFault (Nat × List Char)} {n : Nat}
    (sign : Nat → Int) (hyear : readYear cs = (part.map fun read => (sign read.1, read.2)) >>=
      fun read => if -2 ^ 31 ≤ read.1 ∧ read.1 < 2 ^ 31 then .ok (read.1, read.2)
        else .error .outOfRange)
    (hpart : part = .ok (n, rest)) (hlower : -2 ^ 31 ≤ sign n) (hupper : sign n < 2 ^ 31) :
    readYear cs = .ok (sign n, rest) := by
  rw [hyear, hpart]
  exact if_pos ⟨hlower, hupper⟩

/-- What is read is the year whose digits these are, and nothing of what comes behind them. -/
theorem readYear_of_isYearText {year : Int} {cs : List Char} (h : IsYearText year cs)
    (hlower : -2 ^ 31 ≤ year) (hupper : year < 2 ^ 31)
    (hrest : ∀ c ∈ rest.head?, c.isDigit = false) :
    readYear (cs ++ rest) = .ok (year, rest) := by
  have hsigned {ds : List Char} (hds : IsDigits ds) (hlength : 4 ≤ ds.length)
      (hlt : ofDigits ds < 2 ^ 63) :
      readPart (ds ++ rest).length (ds ++ rest) = .ok (ofDigits ds, rest) := by
    refine readPart_of_isDigits hds (List.ne_nil_of_length_pos (by omega)) ?_ hrest hlt
    rw [List.length_append]
    exact Nat.le_add_right _ _
  cases h with
  | plain hds hlength hvalue =>
    subst hvalue
    have hne : cs ≠ [] := List.ne_nil_of_length_pos (by omega)
    have hpart := readPart_of_isDigits hds hne (Nat.le_of_eq hlength) hrest (by omega)
    refine readYear_of_readPart (fun n => n) ?_ hpart hlower hupper
    rw [readYear, trimStart_of_isDigits hds hne]
    obtain ⟨c, cs, rfl⟩ := List.exists_cons_of_ne_nil hne
    have hc := hds c List.mem_cons_self
    simp only [List.cons_append]
    split
    · rename_i heq
      rw [List.cons.injEq] at heq
      rw [heq.1] at hc
      exact absurd hc (by decide)
    · rename_i heq
      rw [List.cons.injEq] at heq
      rw [heq.1] at hc
      exact absurd hc (by decide)
    · rfl
  | @later ds hds hlength hvalue hyear =>
    subst hvalue
    refine readYear_of_readPart (fun n => n) ?_ (hsigned hds hlength (by omega)) hlower hupper
    rw [readYear, List.cons_append, trimStart_cons (by decide)]
    rfl
  | @earlier ds hds hlength hvalue hyear =>
    subst hvalue
    refine readYear_of_readPart (fun n => -n) ?_ (hsigned hds hlength (by omega)) hlower hupper
    rw [readYear, List.cons_append, trimStart_cons (by decide)]
    rfl

theorem readBoundedPart_of_isPartText {bound : Nat} {cs : List Char} (h : IsPartText n cs)
    (hn : 1 ≤ n) (hle : n ≤ bound) (hbound : bound < 100)
    (hrest : ∀ c ∈ rest.head?, c.isDigit = false) :
    readBoundedPart bound (cs ++ rest) = .ok (n, rest) := by
  have hpart := readPart_of_isDigits h.isDigits h.ne_nil (h.length_le (by omega)) hrest
    (by rw [h.ofDigits_eq]; omega)
  rw [readBoundedPart, trimStart_of_isDigits h.isDigits h.ne_nil, hpart, h.ofDigits_eq]
  exact if_pos ⟨hn, hle⟩

/-! ## Reading dates -/

/-- The dates that can be read and shown. -/
structure Date.InRange (d : Date) : Prop where
  valid : d.Valid
  firstYear_le : -262143 ≤ d.year
  le_lastYear : d.year ≤ 262142

theorem readDate_of_parts (h : d.InRange) {year month day : List Char}
    (hyear : IsYearText d.year year) (hmonth : IsPartText d.month month)
    (hday : IsPartText d.day day) :
    readDate (year ++ '-' :: (month ++ '-' :: day)) = .ok d := by
  have hyear' : readYear (year ++ '-' :: (month ++ '-' :: day)) =
      .ok (d.year, '-' :: (month ++ '-' :: day)) :=
    readYear_of_isYearText hyear (by have := h.firstYear_le; omega) (by have := h.le_lastYear; omega)
      (by simp)
  have hmonth' : readBoundedPart 12 (month ++ '-' :: day) = .ok (d.month, '-' :: day) :=
    readBoundedPart_of_isPartText hmonth h.valid.1 h.valid.month_le (by decide) (by simp)
  have hday' : readBoundedPart 31 (day ++ []) = .ok (d.day, []) :=
    readBoundedPart_of_isPartText hday h.valid.2.1 h.valid.day_le (by decide) (by simp)
  rw [List.append_nil] at hday'
  have hknown : d.Valid ∧ firstYear ≤ d.year ∧ d.year ≤ lastYear :=
    ⟨h.valid, h.firstYear_le, h.le_lastYear⟩
  simp [readDate, hyear', readHyphen, hmonth', hday', bind, Except.bind, hknown]

/-- The blanks around a date are cut off, and there are none in it. -/
theorem trim_of_parts {year month day before after : List Char} {y : Int} {n : Nat}
    (hyear : IsYearText y year) (hday : IsPartText n day)
    (hbefore : ∀ c ∈ before, isBlank c = true) (hafter : ∀ c ∈ after, isBlank c = true) :
    trim (before ++ (year ++ '-' :: (month ++ '-' :: day)) ++ after) =
      year ++ '-' :: (month ++ '-' :: day) := by
  refine trim_eq_iff.2 ⟨⟨before, after, rfl, hbefore, hafter⟩, ?_, ?_⟩
  · obtain ⟨c, rest, rfl, hc⟩ := hyear.eq_cons
    rintro _ ⟨⟩
    exact hc
  · intro c hc
    have hsplit : year ++ '-' :: (month ++ '-' :: day) = (year ++ '-' :: (month ++ ['-'])) ++ day := by
      simp
    rw [hsplit, List.getLast?_append_of_ne_nil _ hday.ne_nil] at hc
    exact isBlank_eq_false_of_isDigit (hday.isDigits c (List.mem_of_getLast? hc))

/-- **Every way to write a date is read as the beginning of its day.** -/
theorem readCutoff_of_isText {text : String} (h : d.InRange) (htext : d.IsText text.toList) :
    readCutoff text = .ok (d.dayNumber * secondsPerDay) := by
  generalize hcs : text.toList = cs at htext
  obtain ⟨hyear, hmonth, hday, hbefore, hafter⟩ := htext
  refine readCutoff_of_readDate ?_
  rw [hcs, trim_of_parts hyear hday hbefore hafter]
  exact readDate_of_parts h hyear hmonth hday

end ShareStreaks
