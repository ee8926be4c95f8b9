import Mathlib.Data.List.DropRight
import ShareStreaks.Output.Results
import ShareStreaks.Proofs.Decimal.Percent
import ShareStreaks.Proofs.Streak.Listing
import ShareStreaks.Proofs.Tables.Loading

/-!
# What a result file tells

**The percentages never contradict the threshold** (`percents_in_order`).  What is found for a threshold
has shares in order, the threshold's share first, and percentages keep the order of shares.

**The terms can be read from the file as long as no term holds a line end** (`resultText_exact`).  A
percentage has neither a line end nor a colon, so the text of a file is cut into its lines at the line
ends, and the term of a line stands before the last colon, whatever else is in it.  Terms are written
as they are, though.  A term with a line end takes more than one line, and the file may be the very one
that other terms have (`resultText_line_end`).
-/

set_option autoImplicit false

namespace ShareStreaks

variable {f : Finding} {fs gs : List Finding}

/-! ## Percentages in order -/

/-- **Percentages never contradict a threshold.**  Shares in order have percentages that show numbers in
order.  So for whatever is found for a threshold, the percentage of the minimum shows at least the
number in the threshold's description and at most the one of the maximum. -/
theorem percents_in_order :
    (∀ a b : Binary64, a ≤ b → ∃ v w, shownPercent? a.percent = some v ∧
      shownPercent? b.percent = some w ∧ v ≤ w) ∧
    ∀ (table : TermTable) (t : Threshold), ∀ f ∈ table.ranking t,
      ∃ asked least greatest : List Char,
        t.description = ">= " ++ String.ofList asked ++ " for " ++ String.ofList (digits t.years)
          ++ " consecutive years" ∧
        f.line = f.term.toList ++ [':', ' '] ++ least ++ [' ', '-', ' '] ++ greatest ∧
        ∃ v u w, shownPercent? asked = some v ∧ shownPercent? least = some u ∧
          shownPercent? greatest = some w ∧ v ≤ u ∧ u ≤ w := by
  refine ⟨fun a b => Binary64.percent_mono, fun table t f hf => ?_⟩
  obtain ⟨hasked, horder⟩ := TermTable.bounds_of_mem_ranking hf
  obtain ⟨v, u, hv, hu, hvu⟩ := Binary64.percent_mono hasked
  obtain ⟨u', w, hu', hw, huw⟩ := Binary64.percent_mono horder
  obtain rfl : u = u' := Option.some.inj (hu.symm.trans hu')
  refine ⟨t.minShare.percent, f.bounds.least.percent, f.bounds.greatest.percent, rfl, ?_,
    v, u, w, hv, hu, hw, hvu, huw⟩
  simp [Finding.line]

/-- A negative zero as the share asked for, and a maximum whose percentage is infinite. -/
theorem percents_in_order_infinite :
    let largest : Binary64 := .ofBits 0x7FEFFFFFFFFFFFFF
    let t : Threshold := ⟨Binary64.zero.negated, 2, by decide, by decide, by decide⟩
    let table : TermTable := ⟨[("a", ⟨[(2016, .zero), (2017, largest)], by decide⟩)], by decide⟩
    Binary64.zero ≤ Binary64.zero.negated ∧
      (∃ v w, shownPercent? ['0', '.', '0', '0', '%'] = some v ∧
        shownPercent? ['-', '0', '.', '0', '0', '%'] = some w ∧ v ≤ w) ∧
      ⟨"a", ⟨.zero, largest⟩⟩ ∈ table.ranking t ∧
      ∃ asked least greatest : List Char,
        t.description = ">= " ++ String.ofList asked ++ " for 2 consecutive years" ∧
        ['a', ':', ' ', '0', '.', '0', '0', '%', ' ', '-', ' ', 'i', 'n', 'f', '%'] =
          ['a', ':', ' '] ++ least ++ [' ', '-', ' '] ++ greatest ∧
        ∃ v u w, shownPercent? asked = some v ∧ shownPercent? least = some u ∧
          shownPercent? greatest = some w ∧ v ≤ u ∧ u ≤ w := by
  intro largest t table
  have hmem : ⟨"a", ⟨.zero, largest⟩⟩ ∈ table.ranking t := by
    rw [TermTable.ranking_eq_findings (by decide)]
    decide
  have hle : Binary64.zero ≤ Binary64.zero.negated := by decide
  have hzero : Binary64.zero.percent = ['0', '.', '0', '0', '%'] := by decide +kernel
  have hnegated : Binary64.zero.negated.percent = ['-', '0', '.', '0', '0', '%'] := by decide +kernel
  obtain ⟨hmono, hfound⟩ := percents_in_order
  have hpercents := hmono _ _ hle
  rw [hzero, hnegated] at hpercents
  obtain ⟨asked, least, greatest, hdescription, hline, hshown⟩ := hfound table t _ hmem
  refine ⟨hle, hpercents, hmem, asked, least, greatest, ?_, ?_, hshown⟩
  · rw [hdescription, String.append_assoc, String.append_assoc]
    exact congrArg (">= " ++ String.ofList asked ++ ·) (by decide)
  · rw [show ['a', ':', ' '] = "a".toList ++ [':', ' '] by decide, ← hline]
    decide +kernel

/-! ## Lines -/

/-- The bounds on a line, behind the term and a colon. -/
def Finding.boundsText (f : Finding) : List Char :=
  ' ' :: (f.bounds.least.percent ++ ' ' :: '-' :: ' ' :: f.bounds.greatest.percent)

theorem Finding.line_eq (f : Finding) : f.line = f.term.toList ++ ':' :: f.boundsText := rfl

theorem Finding.not_mem_boundsText (f : Finding) {c : Char} (hdigit : c.isDigit = false)
    (hmark : c ∉ ' ' :: Binary64.percentMarks) : c ∉ f.boundsText := by
  obtain ⟨hspace, hmark⟩ := not_or.1 (mt List.mem_cons.2 hmark)
  have hdash : c ≠ '-' := fun h => hmark (h ▸ by decide)
  have hpercent (x : Binary64) : c ∉ x.percent := fun h =>
    (Binary64.mem_percent h).elim (Bool.eq_false_iff.1 hdigit) hmark
  simp only [boundsText, List.mem_cons, List.mem_append]
  tauto

theorem Finding.count_line (f : Finding) : f.line.count '\n' = f.term.toList.count '\n' := by
  rw [line_eq, List.count_append, List.count_cons_of_ne (by decide),
    List.count_eq_zero.2 (f.not_mem_boundsText (by decide) (by decide)), Nat.add_zero]

theorem count_resultText (fs : List Finding) :
    (resultText fs).toList.count '\n' =
      fs.length + (fs.map fun f => f.term.toList.count '\n').sum := by
  rw [resultText, String.toList_ofList]
  induction fs with
  | nil => rfl
  | cons f fs ih =>
    rw [List.flatMap_cons, List.count_append, List.count_append, f.count_line, ih, List.length_cons,
      List.map_cons, List.sum_cons, List.count_singleton_self]
    omega

theorem splitOn_resultText (h : ∀ f ∈ fs, '\n' ∉ f.term.toList) :
    (resultText fs).toList.splitOn '\n' = fs.map Finding.line ++ [[]] := by
  rw [resultText, String.toList_ofList]
  induction fs with
  | nil => rfl
  | cons f fs ih =>
    obtain ⟨hf, hfs⟩ := List.forall_mem_cons.1 h
    have hline : '\n' ∉ f.line := by
      rw [← List.count_eq_zero, f.count_line, List.count_eq_zero]
      exact hf
    rw [List.flatMap_cons, List.append_assoc, List.singleton_append,
      List.splitOn_append_cons_self_of_not_mem hline, ih hfs, List.map_cons, List.cons_append]

/-! ## Reading the terms -/

/-- What stands before the last colon of a line. -/
def termOfLine (line : List Char) : String :=
  String.ofList (line.rdropWhile (· != ':')).dropLast

/-- The terms that the lines of a result file begin with. -/
def termsOfText (text : String) : List String :=
  ((text.toList.splitOn '\n').dropLast).map termOfLine

theorem termOfLine_line (f : Finding) : termOfLine f.line = f.term := by
  have hbounds : ∀ c ∈ f.boundsText.reverse, (c != ':') = true := fun c hc =>
    bne_iff_ne.2 fun h => f.not_mem_boundsText (by decide) (by decide) (h ▸ List.mem_reverse.1 hc)
  rw [termOfLine, List.rdropWhile, f.line_eq, List.reverse_append, List.reverse_cons,
    List.append_assoc, List.dropWhile_append_of_pos hbounds, List.singleton_append,
    List.dropWhile_cons_of_neg (by decide), List.reverse_cons, List.dropLast_concat,
    List.reverse_reverse, String.ofList_toList]

theorem termsOfText_resultText (h : ∀ f ∈ fs, '\n' ∉ f.term.toList) :
    termsOfText (resultText fs) = fs.map Finding.term := by
  rw [termsOfText, splitOn_resultText h, List.dropLast_concat, List.map_map]
  exact List.map_congr_left fun f _ => termOfLine_line f

/-- **One line for each term, and the terms can be read back**, if no term holds a line end. -/
theorem resultText_exact (fs : List Finding) :
    ((resultText fs).toList.count '\n' = fs.length ↔ ∀ f ∈ fs, '\n' ∉ f.term.toList) ∧
    ((∀ f ∈ fs, '\n' ∉ f.term.toList) →
      (resultText fs).toList.splitOn '\n' = fs.map Finding.line ++ [[]] ∧
      termsOfText (resultText fs) = fs.map Finding.term ∧
      ∀ gs : List Finding, (∀ g ∈ gs, '\n' ∉ g.term.toList) → resultText fs = resultText gs →
        fs.map Finding.term = gs.map Finding.term) := by
  refine ⟨?_, fun h => ⟨splitOn_resultText h, termsOfText_resultText h, fun gs hgs heq => ?_⟩⟩
  · rw [count_resultText, Nat.add_eq_left, List.sum_eq_zero_iff_forall_eq_nat]
    simp only [List.forall_mem_map, List.count_eq_zero]
  · rw [← termsOfText_resultText h, ← termsOfText_resultText hgs, heq]

/-- Terms that look like the rest of a line, and one without characters. -/
theorem resultText_exact_colons :
    let fs : List Finding := [⟨"a: 0.00% - 0.00%", ⟨.zero, .zero⟩⟩, ⟨"", ⟨.zero, .zero⟩⟩]
    (∀ f ∈ fs, '\n' ∉ f.term.toList) ∧ (resultText fs).toList.count '\n' = 2 ∧
      (resultText fs).toList.splitOn '\n' = fs.map Finding.line ++ [[]] ∧
      termsOfText (resultText fs) = ["a: 0.00% - 0.00%", ""] := by
  intro fs
  have hterms : ∀ f ∈ fs, '\n' ∉ f.term.toList := by decide
  obtain ⟨hcount, hread⟩ := resultText_exact fs
  exact ⟨hterms, hcount.2 hterms, (hread hterms).1, (hread hterms).2.1⟩

/-- A term with a line end, as it can stand in a database, and two terms without: their result files
are the same. -/
theorem resultText_line_end :
    let half : Binary64 := .ofBits 0x3FE0000000000000
    let most : Binary64 := .ofBits 0x3FE8000000000000
    let db : Tables := {
      terms := [⟨.integer 1, .text "a: 50.00% - 75.00%\nb", .integer 20⟩]
      yearly := [⟨.integer 1, .integer 0, .integer 1464739200, .integer 50, .integer 50⟩,
        ⟨.integer 1, .integer 0, .integer 1496275200, .integer 75, .integer 75⟩]
      totals := [⟨.integer 1464739200, .integer 20, .integer 0, .integer 100, .integer 100⟩,
        ⟨.integer 1496275200, .integer 20, .integer 0, .integer 100, .integer 100⟩] }
    let t : Threshold := ⟨half, 2, by decide, by decide, by decide⟩
    let found : List Finding := [⟨"a: 50.00% - 75.00%\nb", ⟨half, most⟩⟩]
    let others : List Finding := [⟨"a", ⟨half, most⟩⟩, ⟨"b", ⟨half, most⟩⟩]
    (∃ loaded, db.load ⟨20, 0, 1450000000, .authors⟩ = .ok loaded ∧ loaded.table.ranking t = found) ∧
      found.length = 1 ∧ (resultText found).toList.count '\n' = 2 ∧
      resultText found = resultText others ∧ found.map Finding.term ≠ others.map Finding.term := by
  intro half most db t found others
  have hhalf : half.percent = ['5', '0', '.', '0', '0', '%'] := by decide +kernel
  have hmost : most.percent = ['7', '5', '.', '0', '0', '%'] := by decide +kernel
  have hpoints : (db.shareRows ⟨20, 0, 1450000000, .authors⟩).mapM (ShareRow.point .authors) =
      .ok [⟨"a: 50.00% - 75.00%\nb", 2016, half⟩, ⟨"a: 50.00% - 75.00%\nb", 2017, most⟩] := by
    decide +kernel
  refine ⟨⟨_, Answer.load_of_mapM_eq_ok rfl hpoints, ?_⟩, rfl, ?_, ?_, by decide⟩
  · exact (TermTable.ranking_eq_findings (by decide +kernel)).trans (by decide +kernel)
  · rw [count_resultText]
    decide +kernel
  · simp only [resultText, found, others, List.flatMap_cons, List.flatMap_nil, Finding.line, hhalf, hmost]
    rfl

end ShareStreaks
