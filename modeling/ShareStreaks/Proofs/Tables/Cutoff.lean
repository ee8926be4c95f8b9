import ShareStreaks.Proofs.Calendar.Cutoff
import ShareStreaks.Proofs.Tables.Loading

/-!
# Years behind a cutoff

A cutoff is a moment, while a table is by years.  If the cutoff is a date, no year before that of the
date is loaded, and of each year after it every row that belongs to the query (`load_of_readDate`).  Only
the year of the date itself is cut.

The tables may be any, with breaks or without, as long as the days are integers.  So what is said here
about selected rows (`mem_shareRows`) and loaded points (`exists_point?_iff`) does not ask for plain
tables.
-/

set_option autoImplicit false

namespace ShareStreaks

theorem Affinity.exceeds_integers (a : Affinity) (m n : Int) :
    a.exceeds (.integer m) (.integer n) = true ↔ n < m := by
  rw [exceeds, meeting_of_not_isText rfl rfl]
  exact decide_eq_true_iff

/-- A day in seconds has the year that the day lies in. -/
theorem Cell.yearOfDay_of_readYear {day year : Int} (h : (Cell.integer day).yearCell.readYear = .ok year) :
    yearOfDay (day / 86400) = year := by
  rw [readYear_yearCell (Or.inr ⟨day, rfl⟩), Cell.year] at h
  split at h
  · rename_i year' hyear
    split at hyear
    · rw [← Except.ok.inj h, Option.some_inj.1 hyear]
    · cases hyear
  · cases h

theorem Cell.readText_eq_ok {c : Cell} {x : String} (h : c.readText = .ok x) : c = .text x := by
  cases c with
  | text s => exact congrArg Cell.text (Except.ok.inj h)
  | null | integer _ | real _ | garbled _ _ | blob _ => cases h

namespace ShareRow

variable {r : ShareRow} {m : Metric} {p : Point} {x : String} {year : Int}

theorem point_eq_ok (h : r.point m = .ok p) :
    r.text = .text p.term ∧ r.year.readYear = .ok p.year := by
  cases htext : r.text.readText with
  | error fault => simp [point, htext, bind, Except.bind] at h
  | ok term =>
    cases hyear : r.year.readYear with
    | error fault => simp [point, htext, hyear, bind, Except.bind] at h
    | ok year =>
      cases hshare : r.share m with
      | error fault => simp [point, htext, hyear, hshare, bind, Except.bind] at h
      | ok share =>
        simp only [point, htext, hyear, hshare, bind, Except.bind, pure, Except.pure,
          Except.ok.injEq] at h
        rw [← h]
        exact ⟨Cell.readText_eq_ok htext, rfl⟩

theorem exists_point_of_fault? (h : r.fault? m = none) : ∃ p, r.point m = .ok p := by
  rw [fault?] at h
  cases hpoint : r.point m with
  | ok p => exact ⟨p, rfl⟩
  | error fault =>
    rw [hpoint] at h
    cases h

theorem isSome_shareAt?_iff :
    (r.shareAt? m x year).isSome = true ↔ ∃ p, r.point m = .ok p ∧ p.term = x ∧ p.year = year := by
  rw [shareAt?]
  cases r.point m with
  | error fault => simp [Except.toOption]
  | ok p => simp [Except.toOption, Point.shareAt?]

end ShareRow

namespace Tables

variable {db : Tables} {q : Query} {loaded : Loaded} {d : Date} {x : String} {year : Int}

/-! ## What is loaded from any tables -/

theorem mem_shareRows {r : ShareRow} :
    r ∈ db.shareRows q ↔ ∃ y ∈ db.yearly, y.wanted db.columns q = true ∧ ∃ total term,
      (total ∈ db.totals ∧ total.belongsTo db.columns q y = true) ∧
      (term ∈ db.terms ∧ term.belongsTo db.columns q y = true) ∧ r = (Joined.mk y total term).row := by
  simp only [(db.shareRows_perm q).mem_iff, selected, List.mem_map, List.mem_flatMap,
    mem_selectedBy_iff]
  constructor
  · rintro ⟨⟨y, total, term⟩, ⟨_, hy, rfl, hwanted, htotal, hterm⟩, rfl⟩
    exact ⟨y, hy, hwanted, total, term, htotal, hterm, rfl⟩
  · rintro ⟨y, hy, hwanted, total, term, htotal, hterm, rfl⟩
    exact ⟨⟨y, total, term⟩, ⟨y, hy, rfl, hwanted, htotal, hterm⟩, rfl⟩

/-- All rows of the query have come. -/
theorem answer_of_load (h : db.load q = .ok loaded) : db.answer q = ⟨db.shareRows q, none⟩ := by
  have hfault := (Answer.load_eq_ok h).2.1
  rw [answer] at hfault ⊢
  split
  · rename_i hbreaks
    rw [if_pos hbreaks] at hfault
    cases hfault
  · rename_i hbreaks
    rw [if_neg hbreaks] at hfault
    exact congrArg (Answer.mk _) hfault

theorem fault?_of_load (h : db.load q = .ok loaded) {r : ShareRow} (hr : r ∈ db.shareRows q) :
    r.fault? q.metric = none := by
  have hrows := (Answer.load_eq_ok h).1
  rw [answer_of_load h] at hrows
  exact hrows r hr

theorem exists_point?_iff (h : db.load q = .ok loaded) :
    (∃ share, loaded.table.point? x year = some share) ↔
      ∃ r ∈ db.shareRows q, ∃ p, r.point q.metric = .ok p ∧ p.term = x ∧ p.year = year := by
  rw [Answer.point?_of_load h, answer_of_load h, ← Option.isSome_iff_exists,
    List.findSome?_isSome_iff]
  simp only [List.mem_reverse, ShareRow.isSome_shareAt?_iff]

/-! ## Cutoffs at a date -/

/-- No year before that of the date is loaded. -/
theorem le_of_point? (hd : d.Valid) (hdays : ∀ y ∈ db.yearly, ∃ n, y.day = .integer n)
    (hsince : q.since = d.dayNumber * secondsPerDay) (h : db.load q = .ok loaded)
    (hpoint : ∃ share, loaded.table.point? x year = some share) : d.year ≤ year := by
  obtain ⟨r, hr, p, hp, -, rfl⟩ := (exists_point?_iff h).1 hpoint
  obtain ⟨y, hy, hwanted, total, term, -, -, rfl⟩ := mem_shareRows.1 hr
  obtain ⟨n, hn⟩ := hdays y hy
  rw [YearlyRow.wanted, YearlyRow.isAfter, Bool.and_eq_true, hn, Affinity.exceeds_integers, hsince,
    secondsPerDay] at hwanted
  have hyear : y.day.yearCell.readYear = .ok p.year := (ShareRow.point_eq_ok hp).2
  rw [hn] at hyear
  rw [← Cell.yearOfDay_of_readYear hyear, ← d.yearOfDay_dayNumber hd]
  exact yearOfDay_mono (by omega)

/-- Of a year after that of the date every row is loaded. -/
theorem exists_point?_of_lt (hd : d.Valid) (hsince : q.since = d.dayNumber * secondsPerDay)
    (h : db.load q = .ok loaded) {y : YearlyRow} (hy : y ∈ db.yearly)
    (hattr : db.columns.yearlyAttr.equal y.attr (.integer q.attr) = true) {total : TotalRow}
    (htotal : total ∈ db.totals) (hbelongs : total.belongsTo db.columns q y = true)
    {term : TermRow} (hterm : term ∈ db.terms) (hnamed : term.belongsTo db.columns q y = true)
    (hyear : y.LiesIn year) (hlt : d.year < year) :
    ∃ x, term.text = .text x ∧ ∃ share, loaded.table.point? x year = some share := by
  obtain ⟨n, hn, hfirst, hnext⟩ := hyear
  have hwanted : y.wanted db.columns q = true := by
    have hday := (yearOfDay_eq_iff.1 (d.yearOfDay_dayNumber hd)).2
    have hmono := firstDayOf_mono (Int.add_one_le_of_lt hlt)
    rw [YearlyRow.wanted, YearlyRow.isAfter, Bool.and_eq_true, hn, Affinity.exceeds_integers, hsince,
      secondsPerDay]
    exact ⟨by omega, hattr⟩
  have hmem : (Joined.mk y total term).row ∈ db.shareRows q :=
    mem_shareRows.2 ⟨y, hy, hwanted, total, term, ⟨htotal, hbelongs⟩, ⟨hterm, hnamed⟩, rfl⟩
  obtain ⟨p, hp⟩ := ShareRow.exists_point_of_fault? (fault?_of_load h hmem)
  obtain ⟨htext, hpyear⟩ := ShareRow.point_eq_ok hp
  refine ⟨p.term, htext, (exists_point?_iff h).2 ⟨_, hmem, p, hp, rfl, ?_⟩⟩
  have hday : y.day.yearCell.readYear = .ok p.year := hpyear
  rw [hn] at hday
  rw [← Cell.yearOfDay_of_readYear hday, yearOfDay_eq_iff]
  constructor
  · omega
  · omega

/-- **A date cuts no year but its own.**  A text that is read as a date is a cutoff.  What is loaded
with this cutoff has no year before that of the date.  Of each later year it has everything: a row with
the attribute asked for, for which there are a total and a term of the right length, gives its term a
share in the year of its day. -/
theorem load_of_readDate {text : String} (h : readDate (trim text.toList) = .ok d) :
    ∃ since, readCutoff text = .ok since ∧
      ∀ (db : Tables) (q : Query) (loaded : Loaded), q.since = since →
        (∀ y ∈ db.yearly, ∃ n, y.day = .integer n) → db.load q = .ok loaded →
        (∀ x year share, loaded.table.point? x year = some share → d.year ≤ year) ∧
        ∀ y ∈ db.yearly, db.columns.yearlyAttr.equal y.attr (.integer q.attr) = true →
          ∀ total ∈ db.totals, total.belongsTo db.columns q y = true →
          ∀ term ∈ db.terms, term.belongsTo db.columns q y = true →
          ∀ year, y.LiesIn year → d.year < year →
            ∃ x, term.text = .text x ∧ ∃ share, loaded.table.point? x year = some share := by
  have hd : d.Valid := (readDate_eq_ok h).1
  refine ⟨_, readCutoff_of_readDate h, fun db q loaded hsince hdays hload => ⟨?_, ?_⟩⟩
  · intro x year share hpoint
    exact le_of_point? hd hdays hsince hload ⟨share, hpoint⟩
  · intro y hy hattr total htotal hbelongs term hterm hnamed year hyear hlt
    exact exists_point?_of_lt hd hsince hload hy hattr htotal hbelongs hterm hnamed hyear hlt

/-- The cutoff lies within 2016.  The first of January of the next year is behind it. -/
theorem load_of_readDate_within_year :
    let db : Tables := {
      terms := [⟨.integer 1, .text "a", .integer 1⟩]
      yearly := [⟨.integer 1, .integer 0, .integer 1451606400, .integer 50, .integer 20⟩,
        ⟨.integer 1, .integer 0, .integer 1483228800, .integer 50, .integer 20⟩]
      totals := [⟨.integer 1451606400, .integer 1, .integer 0, .integer 200, .integer 100⟩,
        ⟨.integer 1483228800, .integer 1, .integer 0, .integer 200, .integer 100⟩] }
    ∃ since loaded, readCutoff " 2016-6-01" = .ok since ∧
      db.load ⟨1, 0, since, .authors⟩ = .ok loaded ∧
      (∀ x year share, loaded.table.point? x year = some share → 2016 ≤ year) ∧
      ∃ share, loaded.table.point? "a" 2017 = some share := by
  intro db
  have hdate : readDate (trim " 2016-6-01".toList) = .ok ⟨2016, 6, 1⟩ := rfl
  obtain ⟨since, hsince, hall⟩ := load_of_readDate hdate
  have hload : ∃ loaded, db.load ⟨1, 0, since, .authors⟩ = .ok loaded := by
    have heq : readCutoff " 2016-6-01" = .ok 1464739200 := rfl
    rw [← Except.ok.inj (heq.symm.trans hsince)]
    have hpoints : (db.shareRows ⟨1, 0, 1464739200, .authors⟩).mapM (ShareRow.point .authors) =
        .ok [⟨"a", 2017, .ofBits 0x3FC999999999999A⟩] := by decide +kernel
    exact ⟨_, Answer.load_of_mapM_eq_ok rfl hpoints⟩
  obtain ⟨loaded, hload⟩ := hload
  have hdays : ∀ y ∈ db.yearly, ∃ n, y.day = .integer n := by
    simp [db]
  obtain ⟨hyears, hlater⟩ := hall db ⟨1, 0, since, .authors⟩ loaded rfl hdays hload
  obtain ⟨x, hx, hpoint⟩ := hlater _ (List.mem_of_getElem? (i := 1) rfl) rfl
    _ (List.mem_of_getElem? (i := 1) rfl) rfl _ (List.mem_cons_self ..) rfl
    2017 ⟨1483228800, rfl, by decide, by decide⟩ (by decide)
  obtain rfl := Cell.text.inj hx
  exact ⟨since, loaded, hsince, hload, hyears, hpoint⟩

end Tables
end ShareStreaks
