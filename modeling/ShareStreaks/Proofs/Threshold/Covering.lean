import ShareStreaks.Proofs.Selection.Shadowing

/-!
# What covering a threshold means

`a.covers b` compares two thresholds number by number.  It holds exactly if every term that meets `b`
meets `a`, whatever its shares are (`Threshold.covers_exact`): for the one direction a window that meets
`b` has one for `a` at its front, for the other the level series of `b` tells `a` and `b` apart.

More than that, a scan for `a` has its result no later than a scan for `b`.  The share with which a scan
has its result is `Threshold.QualifiesAt`, said with the scan itself, of the shares up to this one and
of those before it; it is the last share of the first window that meets the threshold
(`Threshold.qualifiesAt_iff`), and windows can be compared.
-/

set_option autoImplicit false

namespace ShareStreaks
namespace Threshold

variable {t a b : Threshold} {shares : List Binary64} {i j : Nat}

/-! ## The first window -/

/-- The first window that meets the threshold. -/
def FirstMetFrom (t : Threshold) (shares : List Binary64) (i : Nat) : Prop :=
  t.MetFrom shares i ∧ ∀ j < i, ¬ t.MetFrom shares j

theorem FirstMetFrom.le (h : t.FirstMetFrom shares i) (hj : t.MetFrom shares j) : i ≤ j :=
  Nat.le_of_not_lt fun hlt => h.2 j hlt hj

theorem exists_firstMetFrom (h : (streakFrom t none shares).isSome = true) :
    ∃ i, t.FirstMetFrom shares i := by
  have hanswers := streakFrom_none_answers t shares
  obtain ⟨b, hb⟩ := Option.isSome_iff_exists.1 h
  rw [hb] at hanswers
  obtain ⟨i, hmet, hfirst, -⟩ := hanswers
  exact ⟨i, hmet, hfirst⟩

/-- Among the first shares there are the windows that end there. -/
theorem metFrom_take_iff {n : Nat} :
    t.MetFrom (shares.take n) i ↔ t.MetFrom shares i ∧ i + t.years ≤ n := by
  constructor
  · intro h
    have hle := h.add_years_le
    rw [List.length_take] at hle
    refine ⟨fun j hj => ?_, by omega⟩
    obtain ⟨v, hv, hmeets⟩ := h j hj
    rw [List.getElem?_take_of_lt (by omega)] at hv
    exact ⟨v, hv, hmeets⟩
  · rintro ⟨h, hle⟩ j hj
    obtain ⟨v, hv, hmeets⟩ := h j hj
    exact ⟨v, by rw [List.getElem?_take_of_lt (by omega), hv], hmeets⟩

/-! ## The share with which a scan has its result -/

/-- The scan has its result with the share at the index: the shares before it give none, and together
with it they do. -/
def QualifiesAt (t : Threshold) (shares : List Binary64) (i : Nat) : Prop :=
  streakFrom t none (shares.take i) = none ∧
    (streakFrom t none (shares.take (i + 1))).isSome = true

/-- **A scan has its result with the last share of the first window.** -/
theorem qualifiesAt_iff :
    t.QualifiesAt shares i ↔ ∃ j, t.FirstMetFrom shares j ∧ i + 1 = j + t.years := by
  rw [QualifiesAt, ← Option.not_isSome_iff_eq_none, isSome_streakFrom_iff, isSome_streakFrom_iff]
  simp only [metFrom_take_iff]
  constructor
  · rintro ⟨hnone, j, hmet, hle⟩
    have hend : i + 1 = j + t.years := by
      have hnot : ¬ j + t.years ≤ i := fun hle' => hnone ⟨j, hmet, hle'⟩
      omega
    exact ⟨j, ⟨hmet, fun k hk hmet' => hnone ⟨k, hmet', by omega⟩⟩, hend⟩
  · rintro ⟨j, hfirst, hend⟩
    refine ⟨?_, j, hfirst.1, by omega⟩
    rintro ⟨k, hmet, hle⟩
    have hjk := hfirst.le hmet
    omega

theorem QualifiesAt.eq (hi : t.QualifiesAt shares i) (hj : t.QualifiesAt shares j) : i = j := by
  obtain ⟨k, hk, hik⟩ := qualifiesAt_iff.1 hi
  obtain ⟨l, hl, hjl⟩ := qualifiesAt_iff.1 hj
  have hkl := hk.le hl.1
  have hlk := hl.le hk.1
  omega

theorem exists_qualifiesAt (h : (streakFrom t none shares).isSome = true) :
    ∃ i, t.QualifiesAt shares i := by
  obtain ⟨j, hfirst⟩ := exists_firstMetFrom h
  have hpos := t.years_pos
  exact ⟨j + t.years - 1, qualifiesAt_iff.2 ⟨j, hfirst, by omega⟩⟩

/-! ## Covering -/

/-- The first window for the stricter threshold has one for the more lenient one at its front. -/
theorem QualifiesAt.le_of_covers (hc : a.covers b = true) (ha : a.QualifiesAt shares i)
    (hb : b.QualifiesAt shares j) : i ≤ j := by
  obtain ⟨k, hk, hik⟩ := qualifiesAt_iff.1 ha
  obtain ⟨l, hl, hjl⟩ := qualifiesAt_iff.1 hb
  have hkl := hk.le (hl.1.of_covers hc)
  have hyears := (covers_iff.1 hc).2
  omega

/-- **Covering is what it is meant to be.**  One threshold covers another exactly if all yearly shares
that meet the other meet it too, as long as the other one does not ask for more years than there are.
And where it does, the scan for it has its result with the same share as the scan for the other one, or
with an earlier one. -/
theorem covers_exact (a : Threshold) {b : Threshold} (hyears : b.years ≤ 2 ^ 32) :
    (a.covers b = true ↔ ∀ s : YearShares, s.YearsFit →
      (s.streak? b).isSome = true → (s.streak? a).isSome = true) ∧
    (a.covers b = true → ∀ s : YearShares, (s.streak? b).isSome = true →
      ∃ i j, a.QualifiesAt s.values i ∧ b.QualifiesAt s.values j ∧ i ≤ j) := by
  refine ⟨⟨fun hc s _ => covers_isSome hc, fun h => ?_⟩, fun hc s hb => ?_⟩
  · refine isSome_level_iff.1 (h _ (YearShares.yearsFit_level b.minShare hyears) ?_)
    exact isSome_level_iff.2 b.covers_refl
  · obtain ⟨i, hi⟩ := exists_qualifiesAt (covers_isSome hc hb)
    obtain ⟨j, hj⟩ := exists_qualifiesAt hb
    exact ⟨i, j, hi, hj, hi.le_of_covers hc hj⟩

/-- Two years at a quarter are covered by one year at an eighth, for which a scan is done sooner, and
not by one year at a half. -/
theorem covers_exact_quarter :
    let eighth : Binary64 := .ofBits 0x3FC0000000000000
    let quarter : Binary64 := .ofBits 0x3FD0000000000000
    let half : Binary64 := .ofBits 0x3FE0000000000000
    let lenient : Threshold := ⟨eighth, 1, by decide, by decide, by decide⟩
    let strict : Threshold := ⟨quarter, 2, by decide, by decide, by decide⟩
    let high : Threshold := ⟨half, 1, by decide, by decide, by decide⟩
    let s : YearShares := ⟨[(2014, .notANumber), (2015, eighth), (2016, quarter), (2018, quarter)],
      by decide⟩
    strict.years ≤ 2 ^ 32 ∧ (s.streak? strict).isSome = true ∧
    (∃ i j, lenient.QualifiesAt s.values i ∧ strict.QualifiesAt s.values j ∧ i ≤ j) ∧
    ∃ s : YearShares, s.YearsFit ∧ (s.streak? strict).isSome = true ∧
      (s.streak? high).isSome = false := by
  intro eighth quarter half lenient strict high s
  have hyears : strict.years ≤ 2 ^ 32 := by decide
  have hmeets : (s.streak? strict).isSome = true := by decide
  have hcovers : lenient.covers strict = true := by decide
  have hnot : ¬ high.covers strict = true := by decide
  refine ⟨hyears, hmeets, (covers_exact lenient hyears).2 hcovers s hmeets, ?_⟩
  rw [(covers_exact high hyears).1] at hnot
  simpa only [Classical.not_forall, Bool.not_eq_true, exists_prop] using hnot

end Threshold
end ShareStreaks
