import ShareStreaks.Proofs.Decimal.Layout
import ShareStreaks.Proofs.Text.Blank
import ShareStreaks.Proofs.Threshold.FileName

/-!
# Reading thresholds back

The text of a share says everything about it: it is read back with all its bits, and its layout is
fixed by the exponent of its shortest digits.  So a threshold is read back from its share and its
count with a colon between them, and its file name tells both (`shareText_exact`).

A threshold is read in three steps, and each undoes one of writing.  The colon found is the one that
was written, for the text of a share has none; there are no blanks to cut off; and each part is read
by the reader for what was written.
-/

set_option autoImplicit false

namespace ShareStreaks

/-! ## Steps of the reader -/

theorem splitColon_append {before : List Char} (h : ':' ∉ before) (after : List Char) :
    splitColon (before ++ ':' :: after) = some (before, after) := by
  induction before with
  | nil => rfl
  | cons c cs ih =>
    rw [List.mem_cons, not_or] at h
    rw [List.cons_append, splitColon, if_neg (Ne.symm h.1), ih h.2, Option.map_some]

/-- Blanks are none of the characters that numbers are written with. -/
theorem IsNumeral.isBlank_eq_false {cs : List Char} (h : IsNumeral cs) :
    ∀ c ∈ cs, isBlank c = false := by
  intro c hc
  rcases h c hc with hdigit | hmem
  · exact isBlank_eq_false_of_isDigit hdigit
  · simp only [List.mem_cons, List.not_mem_nil, or_false] at hmem
    rcases hmem with rfl | rfl | rfl | rfl <;> rfl

namespace Threshold

/-- A threshold as it is given: its share, a colon, and its count. -/
def text (t : Threshold) : String :=
  String.ofList (t.minShare.shareText ++ ':' :: digits t.years)

/-- **A threshold is read back from its text.** -/
theorem readThreshold_text (t : Threshold) : readThreshold t.text = .ok t := by
  have hsplit : splitColon (t.minShare.shareText ++ ':' :: digits t.years)
      = some (t.minShare.shareText, digits t.years) :=
    splitColon_append (notMem_shareText t (by decide)) _
  have hnumeral : IsNumeral t.minShare.shareText := Binary64.isNumeral_written t.finite shareStyle
  have hshare : readBinary64 (trim t.minShare.shareText) = .ok t.minShare := by
    rw [trim_of_forall hnumeral.isBlank_eq_false]
    exact Binary64.readBinary64_written t.finite shareStyle
  have hyears : readNatural (trim (digits t.years))
      = .ok ⟨t.years, Nat.le_sub_one_of_lt t.years_lt⟩ := by
    rw [trim_of_forall (isDigits_digits t.years).isNumeral.isBlank_eq_false]
    exact readNatural_digits _
  have hmake (h : t.years < wordSize) : make t.minShare t.years h = .ok t := by
    rw [make, dif_pos t.finite, dif_pos t.years_pos]
  rw [readThreshold, text, String.toList_ofList, hsplit]
  simp only [hshare, hyears, hmake]

end Threshold

/-- **The text of a share is exact.**  A finite share is read back from its text with all its bits.
The text is written out around a point if the share is zero, or if the exponent of its shortest
digits lies from `-4` to `15`; otherwise it is these digits with an exponent that has a sign and two
digits at least.  A threshold is read back from its share and its count with a colon between them.
Thresholds have one file name exactly if their shares have the same bits and their counts are
equal. -/
theorem shareText_exact :
    (∀ x : Binary64, x.isFinite = true →
      readBinary64 x.shareText = .ok x ∧
      ∃ body, x.shareText = (if x.negative then ['-'] else []) ++ body ∧
        (x.isZero = true → IsPositional body) ∧
        (x.isZero = false → ∃ s : Significand, s.IsShortest x.magnitude ∧
          (-4 ≤ s.exponent ∧ s.exponent ≤ 15 → IsPositional body) ∧
          (¬(-4 ≤ s.exponent ∧ s.exponent ≤ 15) → s.IsScientificIn 2 body))) ∧
    (∀ t : Threshold, readThreshold t.text = .ok t) ∧
    ∀ a b : Threshold, a.fileName = b.fileName ↔
      a.minShare.toBits = b.minShare.toBits ∧ a.years = b.years := by
  refine ⟨fun x h => ⟨Binary64.readBinary64_written h shareStyle, ?_⟩,
    Threshold.readThreshold_text, fun a b => ?_⟩
  · obtain ⟨body, hbody, hin, hout⟩ := Binary64.written_layout h shareStyle rfl
    refine ⟨body, hbody, fun hz => hin ?_, fun hz => ?_⟩
    · rw [Binary64.significand_of_isZero hz]
      decide
    · exact ⟨_, Binary64.significand_isShortest h hz shareStyle.tie, hin, hout⟩
  · rw [Threshold.fileName_inj]
    refine ⟨fun h => ⟨by rw [h], by rw [h]⟩, fun ⟨hbits, hyears⟩ => Threshold.ext ?_ hyears⟩
    rw [← Binary64.ofBits_toBits a.minShare, hbits, Binary64.ofBits_toBits]

theorem shareText_exact_of_least :
    let x := Binary64.ofBits 0x8000000000000001
    x.isFinite = true ∧ x.shareText = "-5e-324".toList ∧ readBinary64 "-5e-324".toList = .ok x := by
  have hfinite : (Binary64.ofBits 0x8000000000000001).isFinite = true := by decide
  have htext : (Binary64.ofBits 0x8000000000000001).shareText = "-5e-324".toList := by
    decide +kernel
  have hread := (shareText_exact.1 _ hfinite).1
  rw [htext] at hread
  exact ⟨hfinite, htext, hread⟩

end ShareStreaks
