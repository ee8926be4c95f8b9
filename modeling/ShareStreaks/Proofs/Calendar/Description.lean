import ShareStreaks.Proofs.Calendar.Written

/-!
# Moments and their dates

A moment is shown as the date of its day (`describeMoment_of_dayNumber_eq`).  The description tells the
date: the month, the day and the year are kept apart by a space and a comma, and each of them is found
again from its text (`Date.description_inj`).  So reading a date and showing a moment undo each other up
to the time of the day (`describeMoment_exact`).  `Date.IsShownAs` spells out what the text is.

The known dates are those of the days from `firstDayOf firstYear` on up to the last day of `lastYear`,
which bounds the moments that have one (`hasDate_iff`).
-/

set_option autoImplicit false

namespace ShareStreaks

/-! ## Years -/

theorem isYearText_shownYear (year : Int) : IsYearText year (shownYear year) := by
  have hfour (n : Nat) : 4 ≤ (padded 4 n).length := by
    rw [length_padded]
    exact Nat.le_max_left _ _
  rw [shownYear]
  split
  · rename_i h
    have hdigits : (digits year.toNat).length ≤ 4 :=
      (Nat.length_toDigits_le_iff (by decide) (by decide)).2 (by omega)
    refine .plain (isDigits_padded _ _) ?_ ?_
    · rw [length_padded]
      exact Nat.max_eq_left hdigits
    · rw [ofDigits_padded]
      omega
  · split
    · refine .earlier (isDigits_padded _ _) (hfour _) ?_ (by assumption)
      rw [ofDigits_padded]
      omega
    · refine .later (isDigits_padded _ _) (hfour _) ?_ (by omega)
      rw [ofDigits_padded]
      omega

theorem IsYearText.isDigit_or_mem {year : Int} {cs : List Char} (h : IsYearText year cs) {c : Char}
    (hc : c ∈ cs) : c.isDigit = true ∨ c ∈ ['+', '-'] := by
  cases h with
  | plain hds => exact .inl (hds c hc)
  | later hds =>
    rcases List.mem_cons.1 hc with rfl | hc
    · exact .inr (by decide)
    · exact .inl (hds c hc)
  | earlier hds =>
    rcases List.mem_cons.1 hc with rfl | hc
    · exact .inr (by decide)
    · exact .inl (hds c hc)

namespace Date

variable {d e : Date}

theorem year_eq_of_shownYear_eq (hd : d.InRange) (he : e.InRange)
    (h : shownYear d.year = shownYear e.year) : d.year = e.year := by
  have hread {d : Date} (hd : d.InRange) :
      readYear (shownYear d.year ++ []) = .ok (d.year, []) := by
    have hfirst := hd.firstYear_le
    have hlast := hd.le_lastYear
    exact readYear_of_isYearText (isYearText_shownYear d.year) (by omega) (by omega) (by simp)
  have hboth := hread hd
  rw [h, hread he] at hboth
  exact (congrArg Prod.fst (Except.ok.inj hboth)).symm

/-! ## Months -/

theorem Valid.getElem?_monthNames (h : d.Valid) : monthNames[d.month - 1]? = some d.monthName := by
  have hlt : d.month - 1 < monthNames.length := by
    have hfirst := h.1
    have hlast := h.month_le
    show d.month - 1 < 12
    omega
  rw [monthName, List.getElem?_eq_getElem hlt, Option.getD_some]

theorem month_eq_of_monthName_eq (hd : d.Valid) (he : e.Valid) (h : d.monthName = e.monthName) :
    d.month = e.month := by
  have hnodup : monthNames.Nodup := by decide
  have hlt := (List.getElem?_eq_some_iff.1 hd.getElem?_monthNames).1
  have hindex : d.month - 1 = e.month - 1 := by
    rw [← List.getElem?_inj hlt hnodup, hd.getElem?_monthNames, he.getElem?_monthNames, h]
  have hd' := hd.1
  have he' := he.1
  omega

/-- The names of the months are words. -/
theorem Valid.isAlpha_of_mem_monthName (h : d.Valid) {c : Char} (hc : c ∈ d.monthName.toList) :
    c.isAlpha = true := by
  have hall : monthNames.all (·.toList.all Char.isAlpha) = true := by decide
  have hname := List.all_eq_true.1 hall _ (List.mem_of_getElem? h.getElem?_monthNames)
  exact List.all_eq_true.1 hname c hc

/-! ## Descriptions -/

/-- The text is the English name of the month, the day and the year.  A year has a sign if four digits
are not enough for it, or if it is negative, and four digits at least. -/
def IsShownAs (d : Date) (text : String) : Prop :=
  ∃ name, ["January", "February", "March", "April", "May", "June", "July", "August", "September",
      "October", "November", "December"][d.month - 1]? = some name ∧
    text = name ++ " " ++ toString d.day ++ ", "
      ++ (if d.year < 0 then "-" else if 9999 < d.year then "+" else "")
      ++ String.ofList ((toString d.year.natAbs).toList.leftpad 4 '0')

theorem shownYear_eq (year : Int) :
    String.ofList (shownYear year) = (if year < 0 then "-" else if 9999 < year then "+" else "")
      ++ String.ofList ((toString year.natAbs).toList.leftpad 4 '0') := by
  have hpadded : padded 4 year.natAbs = (toString year.natAbs).toList.leftpad 4 '0' := by
    rw [← decimalText_eq, decimalText, String.toList_ofList]
    rfl
  rw [shownYear, ← hpadded]
  split
  · rename_i h
    rw [if_neg (by omega), if_neg (by omega), String.empty_append,
      show year.toNat = year.natAbs by omega]
  · split
    · rw [String.ofList_cons]
      rfl
    · rw [if_pos (by omega), String.ofList_cons]
      rfl

/-- There is one such text, the description. -/
theorem isShownAs_iff (h : d.Valid) {text : String} : d.IsShownAs text ↔ text = d.description := by
  have hdescription : d.description = d.monthName ++ " " ++ toString d.day ++ ", "
      ++ (if d.year < 0 then "-" else if 9999 < d.year then "+" else "")
      ++ String.ofList ((toString d.year.natAbs).toList.leftpad 4 '0') := by
    refine String.toList_injective ?_
    rw [String.append_assoc, ← shownYear_eq, ← decimalText_eq, description, decimalText]
    simp
  have hname := h.getElem?_monthNames
  rw [hdescription]
  constructor
  · rintro ⟨name, hname', rfl⟩
    rw [Option.some_inj.1 (hname'.symm.trans hname)]
  · rintro rfl
    exact ⟨d.monthName, hname, rfl⟩

theorem toList_description (d : Date) :
    d.description.toList =
      (d.monthName.toList ++ ' ' :: digits d.day) ++ ',' :: (' ' :: shownYear d.year) := by
  rw [description, String.toList_append, String.toList_ofList, List.append_assoc, List.cons_append]

/-- **A description tells its date.** -/
theorem description_inj (hd : d.InRange) (he : e.InRange) : d.description = e.description ↔ d = e := by
  refine ⟨fun h => ?_, congrArg description⟩
  have hdigits (n : Nat) {c : Char} (hc : ¬c.isDigit = true) : c ∉ digits n :=
    mt (isDigits_digits n c) hc
  have hspace : ' ' ∉ d.monthName.toList := mt hd.valid.isAlpha_of_mem_monthName (by decide)
  have hhead : ',' ∉ d.monthName.toList ++ ' ' :: digits d.day := by
    rw [List.mem_append, List.mem_cons]
    rintro (hc | hc | hc)
    · exact absurd (hd.valid.isAlpha_of_mem_monthName hc) (by decide)
    · exact absurd hc (by decide)
    · exact hdigits _ (by decide) hc
  have htail : ',' ∉ ' ' :: shownYear d.year := by
    rw [List.mem_cons]
    rintro (hc | hc)
    · exact absurd hc (by decide)
    · exact absurd ((isYearText_shownYear d.year).isDigit_or_mem hc) (by decide)
  have hlist := congrArg String.toList h
  rw [toList_description, toList_description, List.append_cons_inj_of_notMem hhead htail,
    List.append_cons_inj_of_notMem hspace (hdigits d.day (by decide))] at hlist
  obtain ⟨⟨hmonth, -, hday⟩, -, hyear⟩ := hlist
  have hyear' := year_eq_of_shownYear_eq hd he (List.tail_eq_of_cons_eq hyear)
  have hmonth' := month_eq_of_monthName_eq hd.valid he.valid (String.toList_injective hmonth)
  have hday' := digits_injective hday
  cases d
  cases e
  simp only at hyear' hmonth' hday'
  rw [hyear', hmonth', hday']

/-! ## Moments -/

/-- **A moment is shown as the date of its day.** -/
theorem describeMoment_of_dayNumber_eq (h : d.InRange) {t : Int} (ht : d.dayNumber = t / 86400) :
    describeMoment t = d.description := by
  have hdate : ofDayNumber (t / secondsPerDay) = d := by
    rw [show t / secondsPerDay = d.dayNumber from ht.symm, ofDayNumber_dayNumber h.valid]
  simp only [describeMoment, hdate]
  exact if_pos ⟨h.firstYear_le, h.le_lastYear⟩

end Date

/-- The day of the moment has a date that can be shown. -/
def HasDate (t : Int) : Prop := ∃ d : Date, d.InRange ∧ Date.epoch.IsDaysTo d (t / 86400)

/-- **The moments with a date** are those from the beginning of the first known year on up to the end
of the last. -/
theorem hasDate_iff {t : Int} : HasDate t ↔ -8334601228800 ≤ t ∧ t < 8210266876800 := by
  have hfirst : firstDayOf (-262143) = -96465292 := by decide
  have hlast : firstDayOf (262142 + 1) = 95026237 := by decide
  constructor
  · rintro ⟨d, hd, hdays⟩
    have hday := (Date.isDaysTo_epoch_iff hd.valid).1 hdays
    obtain ⟨hle, hlt⟩ := yearOfDay_eq_iff.1 (Date.yearOfDay_dayNumber hd.valid)
    have hle' := firstDayOf_mono hd.firstYear_le
    have hlt' := firstDayOf_mono (Int.add_le_add_right hd.le_lastYear 1)
    omega
  · intro ht
    obtain ⟨hvalid, hday⟩ := Date.ofDayNumber_spec (t / 86400)
    obtain ⟨hle, hlt⟩ := yearOfDay_eq_iff.1 (Date.yearOfDay_dayNumber hvalid)
    rw [hday] at hle hlt
    refine ⟨_, ⟨hvalid, ?_, ?_⟩, (Date.isDaysTo_epoch_iff hvalid).2 hday⟩
    · refine Int.not_lt.1 fun hyear => ?_
      have := firstDayOf_mono (Int.add_one_le_of_lt hyear)
      omega
    · refine Int.not_lt.1 fun hyear => ?_
      have := firstDayOf_mono (Int.add_one_le_of_lt hyear)
      omega

/-- **Dates are read as the days that are shown as them.**  Each text of a known date is read as the
beginning of its day, and this moment is shown as the month, the day and the year of the date.  So is
every moment of the day, and the text is that of no other date; moments of different days are shown
differently. -/
theorem describeMoment_exact :
    (∀ (d : Date) (text : String), d.InRange → d.IsText text.toList →
      ∃ days, Date.epoch.IsDaysTo d days ∧ readCutoff text = .ok (86400 * days) ∧
        describeMoment (86400 * days) = d.description ∧ d.IsShownAs (describeMoment (86400 * days))) ∧
    (∀ (t : Int) (d : Date), d.InRange → Date.epoch.IsDaysTo d (t / 86400) →
      (∀ e : Date, e.InRange → (describeMoment t = e.description ↔ e = d)) ∧
      (∀ e : Date, e.InRange → (e.IsShownAs (describeMoment t) ↔ e = d)) ∧
      ∀ text : String, d.IsText text.toList → readCutoff text = .ok (86400 * (t / 86400))) ∧
    (∀ t t' : Int, HasDate t → HasDate t' →
      (describeMoment t = describeMoment t' ↔ t / 86400 = t' / 86400)) := by
  refine ⟨fun d text hd htext => ?_, fun t d hd hdays => ?_, fun t t' ht ht' => ?_⟩
  · have hread := readCutoff_of_isText hd htext
    rw [Int.mul_comm] at hread
    have hshown := Date.describeMoment_of_dayNumber_eq hd (t := 86400 * d.dayNumber) (by omega)
    exact ⟨d.dayNumber, (Date.isDaysTo_epoch_iff hd.valid).2 rfl, hread, hshown,
      (Date.isShownAs_iff hd.valid).2 hshown⟩
  · have hday := (Date.isDaysTo_epoch_iff hd.valid).1 hdays
    have hall (e : Date) (he : e.InRange) : describeMoment t = e.description ↔ e = d := by
      rw [Date.describeMoment_of_dayNumber_eq hd hday, Date.description_inj hd he, eq_comm]
    refine ⟨hall, fun e he => (Date.isShownAs_iff he.valid).trans (hall e he), fun text htext => ?_⟩
    · rw [readCutoff_of_isText hd htext, hday, Int.mul_comm]
      rfl
  · obtain ⟨d, hd, hdays⟩ := ht
    obtain ⟨d', hd', hdays'⟩ := ht'
    have hday := (Date.isDaysTo_epoch_iff hd.valid).1 hdays
    have hday' := (Date.isDaysTo_epoch_iff hd'.valid).1 hdays'
    rw [Date.describeMoment_of_dayNumber_eq hd hday, Date.describeMoment_of_dayNumber_eq hd' hday',
      Date.description_inj hd hd', ← hday, ← hday']
    exact ⟨congrArg Date.dayNumber, Date.eq_of_dayNumber_eq hd.valid hd'.valid⟩

/-- A day in March long ago, written with a blank in front and without a zero, and its last second; and
the last day of a year that is written with a sign. -/
theorem describeMoment_exact_march :
    (⟨-44, 3, 15⟩ : Date).InRange ∧ Date.IsText ⟨-44, 3, 15⟩ " -0044-3-15".toList ∧
      (∃ days, Date.epoch.IsDaysTo ⟨-44, 3, 15⟩ days ∧
        readCutoff " -0044-3-15" = .ok (86400 * days) ∧
        describeMoment (86400 * days) = "March 15, -0044") ∧
      Date.epoch.IsDaysTo ⟨-44, 3, 15⟩ (-63549273601 / 86400) ∧
      readCutoff " -0044-3-15" = .ok (86400 * (-63549273601 / 86400)) ∧
      HasDate (-63549273601) ∧ HasDate (-63549273600) ∧
      describeMoment (-63549273601) ≠ describeMoment (-63549273600) ∧
      Date.IsText ⟨12345, 12, 31⟩ "+12345-12-31".toList ∧
      ∃ days, Date.epoch.IsDaysTo ⟨12345, 12, 31⟩ days ∧
        readCutoff "+12345-12-31" = .ok (86400 * days) ∧
        describeMoment (86400 * days) = "December 31, +12345" := by
  have hd : (⟨-44, 3, 15⟩ : Date).InRange := ⟨by decide, by decide, by decide⟩
  have hd' : (⟨12345, 12, 31⟩ : Date).InRange := ⟨by decide, by decide, by decide⟩
  have htext : Date.IsText ⟨-44, 3, 15⟩ " -0044-3-15".toList := by
    have hsplit : " -0044-3-15".toList =
        [' '] ++ (shownYear (-44) ++ '-' :: (digits 3 ++ '-' :: digits 15)) ++ [] := by decide
    rw [hsplit]
    exact .intro (isYearText_shownYear (-44)) (.inl rfl) (.inl rfl)
      (List.forall_mem_singleton.2 rfl) (List.forall_mem_nil _)
  have htext' : Date.IsText ⟨12345, 12, 31⟩ "+12345-12-31".toList := by
    have hsplit : "+12345-12-31".toList =
        [] ++ (shownYear 12345 ++ '-' :: (digits 12 ++ '-' :: digits 31)) ++ [] := by decide
    rw [hsplit]
    exact .intro (isYearText_shownYear 12345) (.inl rfl) (.inl rfl) (List.forall_mem_nil _)
      (List.forall_mem_nil _)
  have hdays : Date.epoch.IsDaysTo ⟨-44, 3, 15⟩ (-63549273601 / 86400) :=
    (Date.isDaysTo_epoch_iff hd.valid).2 (by decide)
  have ht : HasDate (-63549273601) := hasDate_iff.2 (by decide)
  have ht' : HasDate (-63549273600) := hasDate_iff.2 (by decide)
  refine ⟨hd, htext, ?_, hdays, (describeMoment_exact.2.1 _ _ hd hdays).2.2 _ htext, ht, ht', ?_,
    htext', ?_⟩
  · obtain ⟨days, hdays, hread, -, name, hname, hshown⟩ := describeMoment_exact.1 _ _ hd htext
    obtain rfl : name = "March" := (Option.some_inj.1 hname).symm
    exact ⟨days, hdays, hread, hshown⟩
  · exact mt (describeMoment_exact.2.2 _ _ ht ht').1 (by decide)
  · obtain ⟨days, hdays, hread, -, name, hname, hshown⟩ := describeMoment_exact.1 _ _ hd' htext'
    obtain rfl : name = "December" := (Option.some_inj.1 hname).symm
    exact ⟨days, hdays, hread, hshown⟩

end ShareStreaks
