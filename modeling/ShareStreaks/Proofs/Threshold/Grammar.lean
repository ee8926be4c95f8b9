import ShareStreaks.Proofs.Decimal.Literal
import ShareStreaks.Proofs.Threshold.ReadBack

/-!
# Which texts are thresholds

A text is a threshold if it has a colon, and blanks aside there are the literal of a finite share before
the first one and a positive count that fits 64 bits behind it (`readThreshold_exact`).  If several of
these conditions fail, the fault reported is the first of them, in the order: no colon, an unreadable
share, an unreadable count, a share that is not finite, and no years.

Each part of the text is read by its own reader, and what that one takes is known
(`isShareText_iff`, `isYearsText_iff`).
-/

set_option autoImplicit false

namespace ShareStreaks

/-! ## Parts of the text -/

/-- The parts before and after the first colon. -/
def IsSplit (text : String) (share years : List Char) : Prop :=
  text.toList = share ++ ':' :: years ∧ ':' ∉ share

/-- The part is a literal with this value, and blanks around it. -/
def IsShareText (part : List Char) (x : Binary64) : Prop :=
  ∃ core, IsTrimmed part core ∧ IsLiteral core x

/-- The part is a number of 64 bits, and blanks around it. -/
def IsYearsText (part : List Char) (n : Nat) : Prop :=
  ∃ core, IsTrimmed part core ∧ IsNaturalText core n ∧ n ≤ 2 ^ 64 - 1

/-- The text is a share and a count with a colon between them. -/
def IsThresholdText (text : String) (x : Binary64) (n : Nat) : Prop :=
  ∃ share years, IsSplit text share years ∧ IsShareText share x ∧ IsYearsText years n

theorem splitColon_eq_none_iff {cs : List Char} : splitColon cs = none ↔ ':' ∉ cs := by
  induction cs with
  | nil => exact iff_of_true rfl List.not_mem_nil
  | cons c cs ih =>
    rw [splitColon, List.mem_cons, not_or]
    split
    · rename_i hc
      exact iff_of_false (Option.some_ne_none _) fun h => h.1 hc.symm
    · rename_i hc
      rw [Option.map_eq_none_iff, ih]
      exact (and_iff_right (Ne.symm hc)).symm

theorem splitColon_eq_some_iff {text : String} {share years : List Char} :
    splitColon text.toList = some (share, years) ↔ IsSplit text share years := by
  refine ⟨fun h => ?_, fun h => h.1 ▸ splitColon_append h.2 years⟩
  have hmem : ':' ∈ text.toList := by
    refine Decidable.byContradiction fun hnot => ?_
    rw [splitColon_eq_none_iff.2 hnot] at h
    cases h
  obtain ⟨before, after, htext, hnot⟩ := List.eq_append_cons_of_mem hmem
  rw [htext, splitColon_append hnot, Option.some_inj, Prod.mk.injEq] at h
  obtain ⟨rfl, rfl⟩ := h
  exact ⟨htext, hnot⟩

theorem isShareText_iff {part : List Char} {x : Binary64} :
    IsShareText part x ↔ readBinary64 (trim part) = .ok x := by
  simp only [IsShareText, ← trim_eq_iff, ← readBinary64_eq_ok_iff, exists_eq_left']

theorem isYearsText_iff {part : List Char} {n : Nat} :
    IsYearsText part n ↔ ∃ h : n ≤ wordSize - 1, readNatural (trim part) = .ok ⟨n, h⟩ := by
  simp only [IsYearsText, ← trim_eq_iff, exists_eq_left', readNatural_eq_ok_iff, exists_prop]
  exact and_comm

/-- What is not read has a fault. -/
theorem exists_eq_error_iff {ε α : Type} {r : Except ε α} :
    (∃ cause, r = .error cause) ↔ ∀ a, r ≠ .ok a := by
  cases r with
  | error cause => exact iff_of_true ⟨cause, rfl⟩ nofun
  | ok a => exact iff_of_false nofun fun h => h a rfl

theorem forall_not_isShareText_iff {part : List Char} :
    (∀ x, ¬IsShareText part x) ↔ ∃ cause, readBinary64 (trim part) = .error cause := by
  simp only [isShareText_iff, exists_eq_error_iff, ne_eq]

theorem forall_not_isYearsText_iff {part : List Char} :
    (∀ n, ¬IsYearsText part n) ↔ ∃ cause, readNatural (trim part) = .error cause := by
  simp only [isYearsText_iff, exists_eq_error_iff, not_exists, Subtype.forall, ne_eq]

/-! ## A share and a count -/

namespace Threshold

variable {x : Binary64} {n : Nat} {h : n < wordSize}

theorem make_of_not_isFinite (hx : x.isFinite = false) : make x n h = .error (.notFinite x) := by
  rw [make, dif_neg]
  rw [hx]
  exact Bool.false_ne_true

theorem make_zero (hx : x.isFinite = true) {h : 0 < wordSize} : make x 0 h = .error .noYears := by
  rw [make, dif_pos hx, dif_neg (Nat.lt_irrefl 0)]

theorem make_of_isFinite (hx : x.isFinite = true) (hn : 0 < n) :
    make x n h = .ok ⟨x, n, hx, hn, h⟩ := by
  rw [make, dif_pos hx, dif_pos hn]

end Threshold

/-! ## The whole text -/

variable {text : String}

/-- The ways in which reading a threshold ends, each one having got past those before. -/
inductive ThresholdReading (text : String) : Except ThresholdTextFault Threshold → Prop where
  | noColon (hcolon : ':' ∉ text.toList) : ThresholdReading text (.error .noColon)
  | share {share years : List Char} {cause : LiteralFault} (hsplit : IsSplit text share years)
      (hshare : ∀ x, ¬IsShareText share x) :
      ThresholdReading text (.error (.share (String.ofList share) cause))
  | years {share years : List Char} {x : Binary64} {cause : IntegerFault}
      (hsplit : IsSplit text share years) (hshare : IsShareText share x)
      (hyears : ∀ n, ¬IsYearsText years n) :
      ThresholdReading text (.error (.years (String.ofList years) cause))
  | notFinite {x : Binary64} {n : Nat} (htext : IsThresholdText text x n)
      (hfinite : x.isFinite = false) : ThresholdReading text (.error (.rejected (.notFinite x)))
  | noYears {x : Binary64} (htext : IsThresholdText text x 0) (hfinite : x.isFinite = true) :
      ThresholdReading text (.error (.rejected .noYears))
  | threshold {t : Threshold} (htext : IsThresholdText text t.minShare t.years) :
      ThresholdReading text (.ok t)

/-- If both parts can be read, it depends on the share and the count alone. -/
theorem readThreshold_of_isThresholdText {x : Binary64} {n : Nat} (h : IsThresholdText text x n) :
    ∃ hn : n < wordSize,
      (∀ t, Threshold.make x n hn = .ok t → readThreshold text = .ok t) ∧
      ∀ cause, Threshold.make x n hn = .error cause →
        readThreshold text = .error (.rejected cause) := by
  obtain ⟨share, years, hsplit, hshare, hyears⟩ := h
  obtain ⟨hle, hyears⟩ := isYearsText_iff.1 hyears
  refine ⟨Nat.lt_of_le_of_lt hle (by decide), fun t ht => ?_, fun cause hcause => ?_⟩
  · simp only [readThreshold, splitColon_eq_some_iff.2 hsplit, isShareText_iff.1 hshare, hyears, ht]
  · simp only [readThreshold, splitColon_eq_some_iff.2 hsplit, isShareText_iff.1 hshare, hyears,
      hcause]

theorem thresholdReading_of_isThresholdText {x : Binary64} {n : Nat}
    (h : IsThresholdText text x n) : ThresholdReading text (readThreshold text) := by
  obtain ⟨hn, hok, herror⟩ := readThreshold_of_isThresholdText h
  cases hfinite : x.isFinite with
  | false =>
    rw [herror _ (Threshold.make_of_not_isFinite hfinite)]
    exact .notFinite h hfinite
  | true =>
    rcases Nat.eq_zero_or_pos n with rfl | hpos
    · rw [herror _ (Threshold.make_zero hfinite)]
      exact .noYears h hfinite
    · rw [hok _ (Threshold.make_of_isFinite hfinite hpos)]
      exact .threshold h

/-- **Reading a threshold ends in one of these ways.** -/
theorem thresholdReading (text : String) : ThresholdReading text (readThreshold text) := by
  cases hsplit : splitColon text.toList with
  | none =>
    rw [readThreshold, hsplit]
    exact .noColon (splitColon_eq_none_iff.1 hsplit)
  | some parts =>
    obtain ⟨share, years⟩ := parts
    have hsplit' := splitColon_eq_some_iff.1 hsplit
    cases hshare : readBinary64 (trim share) with
    | error cause =>
      simp only [readThreshold, hsplit, hshare]
      exact .share hsplit' (forall_not_isShareText_iff.2 ⟨cause, hshare⟩)
    | ok x =>
      have hshare' := isShareText_iff.2 hshare
      cases hyears : readNatural (trim years) with
      | error cause =>
        simp only [readThreshold, hsplit, hshare, hyears]
        exact .years hsplit' hshare' (forall_not_isYearsText_iff.2 ⟨cause, hyears⟩)
      | ok n =>
        exact thresholdReading_of_isThresholdText
          ⟨share, years, hsplit', hshare', isYearsText_iff.2 ⟨n.2, hyears⟩⟩

theorem ThresholdReading.of_eq {r : Except ThresholdTextFault Threshold} (h : readThreshold text = r) :
    ThresholdReading text r :=
  h ▸ thresholdReading text

/-! ## Each way to end -/

theorem readThreshold_eq_ok_iff {t : Threshold} :
    readThreshold text = .ok t ↔ IsThresholdText text t.minShare t.years := by
  refine ⟨fun h => ?_, fun h => ?_⟩
  · cases ThresholdReading.of_eq h with
    | threshold htext => exact htext
  · obtain ⟨hn, hok, -⟩ := readThreshold_of_isThresholdText h
    exact hok t (Threshold.make_of_isFinite t.finite t.years_pos)

theorem exists_readThreshold_eq_ok_iff :
    (∃ t, readThreshold text = .ok t) ↔
      ∃ x n, IsThresholdText text x n ∧ x.isFinite = true ∧ 1 ≤ n := by
  constructor
  · rintro ⟨t, h⟩
    exact ⟨t.minShare, t.years, readThreshold_eq_ok_iff.1 h, t.finite, t.years_pos⟩
  · rintro ⟨x, n, htext, hfinite, hpos⟩
    obtain ⟨hn, hok, -⟩ := readThreshold_of_isThresholdText htext
    exact ⟨_, hok _ (Threshold.make_of_isFinite hfinite hpos)⟩

theorem readThreshold_eq_noColon_iff : readThreshold text = .error .noColon ↔ ':' ∉ text.toList := by
  refine ⟨fun h => ?_, fun h => ?_⟩
  · cases ThresholdReading.of_eq h with
    | noColon hcolon => exact hcolon
  · rw [readThreshold, splitColon_eq_none_iff.2 h]

theorem readThreshold_eq_share_iff {part : String} :
    (∃ cause, readThreshold text = .error (.share part cause)) ↔
      ∃ share years, IsSplit text share years ∧ part = String.ofList share ∧
        ∀ x, ¬IsShareText share x := by
  constructor
  · rintro ⟨cause, h⟩
    cases ThresholdReading.of_eq h with
    | share hsplit hshare => exact ⟨_, _, hsplit, rfl, hshare⟩
  · rintro ⟨share, years, hsplit, rfl, hshare⟩
    obtain ⟨cause, hcause⟩ := forall_not_isShareText_iff.1 hshare
    refine ⟨cause, ?_⟩
    simp only [readThreshold, splitColon_eq_some_iff.2 hsplit, hcause]

theorem readThreshold_eq_years_iff {part : String} :
    (∃ cause, readThreshold text = .error (.years part cause)) ↔
      ∃ share years, IsSplit text share years ∧ part = String.ofList years ∧
        (∃ x, IsShareText share x) ∧ ∀ n, ¬IsYearsText years n := by
  constructor
  · rintro ⟨cause, h⟩
    cases ThresholdReading.of_eq h with
    | years hsplit hshare hyears => exact ⟨_, _, hsplit, rfl, ⟨_, hshare⟩, hyears⟩
  · rintro ⟨share, years, hsplit, rfl, ⟨x, hshare⟩, hyears⟩
    obtain ⟨cause, hcause⟩ := forall_not_isYearsText_iff.1 hyears
    refine ⟨cause, ?_⟩
    simp only [readThreshold, splitColon_eq_some_iff.2 hsplit, isShareText_iff.1 hshare, hcause]

theorem readThreshold_eq_notFinite_iff {x : Binary64} :
    readThreshold text = .error (.rejected (.notFinite x)) ↔
      ∃ n, IsThresholdText text x n ∧ x.isFinite = false := by
  constructor
  · intro h
    cases ThresholdReading.of_eq h with
    | notFinite htext hfinite => exact ⟨_, htext, hfinite⟩
  · rintro ⟨n, htext, hfinite⟩
    obtain ⟨hn, -, herror⟩ := readThreshold_of_isThresholdText htext
    exact herror _ (Threshold.make_of_not_isFinite hfinite)

theorem readThreshold_eq_noYears_iff :
    readThreshold text = .error (.rejected .noYears) ↔
      ∃ x, IsThresholdText text x 0 ∧ x.isFinite = true := by
  constructor
  · intro h
    cases ThresholdReading.of_eq h with
    | noYears htext hfinite => exact ⟨_, htext, hfinite⟩
  · rintro ⟨x, htext, hfinite⟩
    obtain ⟨hn, -, herror⟩ := readThreshold_of_isThresholdText htext
    exact herror _ (Threshold.make_zero hfinite)

/-- **Exactly the texts that are thresholds are read**, and of the faults of another text the first
is reported. -/
theorem readThreshold_exact (text : String) :
    (∀ t, readThreshold text = .ok t ↔ IsThresholdText text t.minShare t.years) ∧
    ((∃ t, readThreshold text = .ok t) ↔
      ∃ x n, IsThresholdText text x n ∧ x.isFinite = true ∧ 1 ≤ n) ∧
    (readThreshold text = .error .noColon ↔ ':' ∉ text.toList) ∧
    (∀ part, (∃ cause, readThreshold text = .error (.share part cause)) ↔
      ∃ share years, IsSplit text share years ∧ part = String.ofList share ∧
        ∀ x, ¬IsShareText share x) ∧
    (∀ part, (∃ cause, readThreshold text = .error (.years part cause)) ↔
      ∃ share years, IsSplit text share years ∧ part = String.ofList years ∧
        (∃ x, IsShareText share x) ∧ ∀ n, ¬IsYearsText years n) ∧
    (∀ x, readThreshold text = .error (.rejected (.notFinite x)) ↔
      ∃ n, IsThresholdText text x n ∧ x.isFinite = false) ∧
    (readThreshold text = .error (.rejected .noYears) ↔
      ∃ x, IsThresholdText text x 0 ∧ x.isFinite = true) ∧
    (∀ t, readThreshold text = .ok t →
      t.minShare.isNaN = false ∧ (∀ negative, t.minShare ≠ .infinity negative) ∧ t.years ≠ 0) := by
  refine ⟨fun t => readThreshold_eq_ok_iff, exists_readThreshold_eq_ok_iff,
    readThreshold_eq_noColon_iff, fun part => readThreshold_eq_share_iff,
    fun part => readThreshold_eq_years_iff, fun x => readThreshold_eq_notFinite_iff,
    readThreshold_eq_noYears_iff, fun t _ => ⟨?_, fun negative hinfinite => ?_, ?_⟩⟩
  · exact Binary64.isNaN_of_isFinite t.finite
  · have hfinite := t.finite
    rw [hinfinite] at hfinite
    exact absurd hfinite (by cases negative <;> decide)
  · exact Nat.ne_of_gt t.years_pos

/-- Blanks, a point in front and a sign at the count; and a share past the largest number. -/
theorem readThreshold_exact_half :
    let half : Threshold := ⟨Binary64.ofBits 0x3FE0000000000000, 4, by decide, by decide, by decide⟩
    readThreshold " .5E0 :\t+4" = .ok half ∧
      IsThresholdText " .5E0 :\t+4" half.minShare half.years ∧ half.minShare.isNaN = false ∧
      readThreshold "1e400:3" = .error (.rejected (.notFinite (.infinity false))) ∧
      ∃ n, IsThresholdText "1e400:3" (.infinity false) n := by
  intro half
  have hread : readThreshold " .5E0 :\t+4" = .ok half := by decide +kernel
  have hlarge : readThreshold "1e400:3" = .error (.rejected (.notFinite (.infinity false))) := by
    decide +kernel
  obtain ⟨hok, -, -, -, -, -, -, hnumber⟩ := readThreshold_exact " .5E0 :\t+4"
  obtain ⟨-, -, -, -, -, hnotFinite, -, -⟩ := readThreshold_exact "1e400:3"
  obtain ⟨n, htext, -⟩ := (hnotFinite _).1 hlarge
  exact ⟨hread, (hok _).1 hread, (hnumber _ hread).1, hlarge, n, htext⟩

end ShareStreaks
