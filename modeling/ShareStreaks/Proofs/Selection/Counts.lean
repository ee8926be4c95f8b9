import Mathlib.Data.List.Dedup
import ShareStreaks.Proofs.Output.Summary
import ShareStreaks.Run

/-!
# Counts agree

The number of terms that a run reports is counted in several places: the list of the terms that were
given out, the outcomes, the event of each threshold and of the end of the selection, the files that were
written and the summary.  They all say the same (`Selection.run_counts_agree`).

The terms given out are those of the outcomes in their order (`Selection.run_seen`), and none of them
twice, so that counting the terms, the findings and the entries of the list is the same.  The events and
the files take their counts from one outcome each, and leaving out the outcomes without findings does not
change the sum (`sum_nonempty`).
-/

set_option autoImplicit false

namespace ShareStreaks

/-- The count that an event gives under a name. -/
def Event.count? (name : String) (e : Event) : Option Nat :=
  match e.particulars.lookup name with
  | some (.count n) => some n
  | _ => none

/-! ## One threshold -/

/-- As many terms are ranked as meet the threshold. -/
theorem TermTable.length_ranking (table : TermTable) (t : Threshold) :
    (table.ranking t).length =
      (table.entries.filter fun e => (e.2.streak? t).isSome).length := by
  rw [(ranking_perm table t).length_eq, findings, List.length_filterMap_eq_countP,
    List.countP_eq_length_filter]
  simp only [Option.isSome_map]

/-- No more are given out than are ranked. -/
theorem TermTable.length_remaining_le (table : TermTable) (earlier : List Threshold)
    (t : Threshold) : (table.remaining earlier t).length ≤ (table.ranking t).length :=
  List.length_filter_le _ _

namespace Selection

variable (table : TermTable) (ts : List Threshold)

theorem qualifying_runFrom {table : TermTable} {seen : List String} {ts : List Threshold} {r : Round}
    (h : r ∈ (runFrom table seen ts).rounds) :
    r.qualifying = (table.ranking r.outcome.threshold).length := by
  induction ts generalizing seen with
  | nil => simp [runFrom] at h
  | cons t ts ih =>
    rw [runFrom, List.mem_cons] at h
    rcases h with rfl | h
    · rfl
    · exact ih h

/-- The event of a threshold tells how many terms meet it and how many it was given. -/
theorem getElem?_events_run {i : Nat} {t : Threshold} (ht : ts[i]? = some t) :
    (run table ts).events[i]? = some (.thresholdTried t (table.ranking t).length
      (table.remaining (ts.take i) t).length) := by
  have houtcome := getElem?_run table ts i
  rw [ht, Option.map_some, outcomes, List.getElem?_map, Option.map_eq_some_iff] at houtcome
  obtain ⟨r, hr, heq⟩ := houtcome
  have hqualifying := qualifying_runFrom (List.mem_of_getElem? hr)
  rw [heq] at hqualifying
  rw [events, List.getElem?_append_left, List.getElem?_map, hr, Option.map_some, heq, hqualifying]
  rw [List.length_map]
  exact (List.getElem?_eq_some_iff.1 hr).1

/-! ## Sums -/

/-- The count of terms that were given out is told once, at the end. -/
theorem termCounts_events (s : Selection) :
    s.events.filterMap (Event.count? "term_count") = [s.seen.length] := by
  have hnone : (s.rounds.map fun r => Event.thresholdTried r.outcome.threshold r.qualifying
      r.outcome.findings.length).filterMap (Event.count? "term_count") = [] := by
    rw [List.filterMap_map, List.filterMap_eq_nil_iff]
    exact fun _ _ => rfl
  rw [events, List.filterMap_append, hnone]
  rfl

/-- The counts of new terms are those of the outcomes. -/
theorem newTerms_events (s : Selection) :
    s.events.filterMap (Event.count? "new_terms") = s.outcomes.map fun o => o.findings.length := by
  have hlast : [Event.selectionFinished s.rounds.length s.seen.length].filterMap
      (Event.count? "new_terms") = [] := rfl
  rw [events, List.filterMap_append, hlast, List.append_nil, List.filterMap_map, outcomes,
    List.map_map]
  exact congrFun List.filterMap_eq_map' _

/-- Outcomes without findings do not count. -/
theorem sum_nonempty (os : List Outcome) :
    ((nonempty os).map fun o => o.findings.length).sum = totalFindings os := by
  rw [totalFindings_eq_sum]
  induction os with
  | nil => rfl
  | cons o os ih =>
    by_cases ho : o.findings = []
    · rw [nonempty_cons_of_nil ho, ih]
      simp [ho]
    · rw [nonempty_cons_of_ne ho, List.map_cons, List.map_cons, List.sum_cons, List.sum_cons, ih]

/-- **Counts agree.**  The terms given out are all different, and there are as many as the outcomes hold
findings, as the event at the end of the selection tells, as the events of the thresholds tell together,
and as there are different terms in the outcomes.  The event of a threshold comes in the threshold's
place; it tells how many terms of the table meet the threshold, and no more than these were given to it.
If the files could be written, their counts add up to the same number, and this is the total that the
summary gives. -/
theorem run_counts_agree (table : TermTable) (ts : List Threshold) :
    let selection := run table ts
    let total := totalFindings selection.outcomes
    selection.seen.Nodup ∧ selection.seen.length = total ∧
    selection.events.filterMap (Event.count? "term_count") = [total] ∧
    (selection.events.filterMap (Event.count? "new_terms")).sum = total ∧
    (termsOf selection.outcomes).dedup.length = total ∧
    (∀ (i : Nat) (t : Threshold), ts[i]? = some t → ∃ (o : Outcome) (qualifying : Nat),
      selection.outcomes[i]? = some o ∧
      selection.events[i]? = some (.thresholdTried t qualifying o.findings.length) ∧
      qualifying = (table.entries.filter fun e => (e.2.streak? t).isSome).length ∧
      o.findings.length ≤ qualifying) ∧
    ∀ (directory : Path) (tree : FileTree),
      (fileOutcomes directory selection.outcomes tree).fault = none →
      let written := (fileOutcomes directory selection.outcomes tree).written
      (written.map WrittenFile.count).sum = total ∧
      ∀ noted : List Nat, summary selection.outcomes written noted =
        "\n--- Term Streak Analysis ---\n"
          ++ String.join (summaryLines selection.outcomes written noted)
          ++ "Total terms reported: " ++ toString total ++ "\n"
          ++ (if noted = [] then ""
              else "Shadowed filters: " ++ toString noted.length ++ "\n") := by
  intro selection total
  have hnodup := nodup_termsOf_run table ts
  have hseen : selection.seen = termsOf selection.outcomes := run_seen table ts
  have hlength : selection.seen.length = total := by
    rw [hseen, ← totalFindings_eq_length_termsOf]
  refine ⟨hseen ▸ hnodup, hlength, ?_, ?_, ?_, ?_, ?_⟩
  · rw [termCounts_events, hlength]
  · rw [newTerms_events, ← totalFindings_eq_sum]
  · rw [hnodup.dedup, ← totalFindings_eq_length_termsOf]
  · intro i t ht
    refine ⟨⟨t, table.remaining (ts.take i) t⟩, (table.ranking t).length,
      by rw [getElem?_run, ht, Option.map_some], getElem?_events_run table ts ht, table.length_ranking t,
      table.length_remaining_le _ t⟩
  · intro directory tree hfault written
    obtain ⟨tree', -, heq⟩ := fileOutcomes_of_fault_eq_none hfault
    have hwritten : written = (nonempty selection.outcomes).map (Outcome.file directory) := by
      rw [heq] at hfault
      exact (congrArg Filing.written heq).trans (written_writeFiles hfault)
    refine ⟨?_, fun noted => ?_⟩
    · rw [hwritten, List.map_map]
      exact sum_nonempty selection.outcomes
    · rw [summary_eq, ← totalFindings_eq_sum]

/-- Both terms meet the second threshold, and one of them was given to the first. -/
theorem run_counts_agree_met_before :
    let low : Binary64 := .ofBits 0x3FB0000000000000
    let high : Binary64 := .ofBits 0x3FC0000000000000
    let strict : Threshold := ⟨high, 2, by decide, by decide, by decide⟩
    let lenient : Threshold := ⟨low, 2, by decide, by decide, by decide⟩
    let table : TermTable := ⟨[("a", ⟨[(2019, high), (2020, high)], by decide⟩),
      ("b", ⟨[(2019, low), (2020, high)], by decide⟩)], by decide⟩
    let selection := run table [strict, lenient]
    let filing := fileOutcomes ⟨"out"⟩ selection.outcomes (.empty ["home"])
    totalFindings selection.outcomes = 2 ∧ selection.seen.length = 2 ∧
    selection.events.filterMap (Event.count? "term_count") = [2] ∧
    [strict, lenient][1]? = some lenient ∧
    (∃ (o : Outcome) (qualifying : Nat), selection.outcomes[1]? = some o ∧
      selection.events[1]? = some (.thresholdTried lenient qualifying o.findings.length) ∧
      qualifying = 2 ∧ o.findings.length ≤ 2) ∧
    filing.fault = none ∧ (filing.written.map WrittenFile.count).sum = 2 ∧
    summary selection.outcomes filing.written [] = "\n--- Term Streak Analysis ---\n"
      ++ String.join (summaryLines selection.outcomes filing.written [])
      ++ "Total terms reported: 2\n" := by
  intro low high strict lenient table selection filing
  have houtcomes : selection.outcomes =
      [⟨strict, [⟨"a", ⟨high, high⟩⟩]⟩, ⟨lenient, [⟨"b", ⟨low, high⟩⟩]⟩] := by
    have hstrict : table.ranking strict = [⟨"a", ⟨high, high⟩⟩] :=
      (TermTable.ranking_eq_findings (by decide)).trans (by decide)
    have hlenient : table.ranking lenient = [⟨"a", ⟨high, high⟩⟩, ⟨"b", ⟨low, high⟩⟩] :=
      (TermTable.ranking_eq_findings (by decide)).trans (by decide)
    simp only [selection, run, runFrom, hstrict, hlenient]
    decide
  have htotal : totalFindings selection.outcomes = 2 := by rw [houtcomes]; rfl
  have hfault : filing.fault = none := by
    simp only [filing]
    rw [houtcomes]
    decide +kernel
  obtain ⟨-, hseen, hterms, -, -, htried, hfiles⟩ := run_counts_agree table [strict, lenient]
  obtain ⟨o, qualifying, ho, hevent, hqualifying, hle⟩ := htried 1 lenient rfl
  have htwo : qualifying = 2 := hqualifying.trans (by decide)
  rw [htotal] at hseen hterms hfiles
  obtain ⟨hsum, hsummary⟩ := hfiles ⟨"out"⟩ (.empty ["home"]) hfault
  refine ⟨htotal, hseen, hterms, rfl, ⟨o, qualifying, ho, hevent, htwo, htwo ▸ hle⟩, hfault, hsum, ?_⟩
  rw [hsummary [], if_pos rfl, String.append_empty, String.append_assoc, String.append_assoc]
  rfl

end Selection
end ShareStreaks
