import Mathlib.Algebra.GroupWithZero.Nat
import ShareStreaks.Output.Summary
import ShareStreaks.Proofs.Output.Files
import ShareStreaks.Proofs.Selection.Shadowing

/-!
# The summary tells where results are

The summary does not go by the order of the outcomes to find a file.  It looks through the files written
for the first one whose path ends in the file name of the threshold.

* Such a file is there for every outcome with findings, and its path is the outcome's own, since a path
  in the directory ends in the name it was made of (`shownFile_written`).
* Two outcomes of a run that both have findings are of different thresholds
  (`Selection.eq_of_threshold_eq`), so no other outcome has this file.
* An outcome with findings is not of a shadowed threshold (`Selection.notMem_shadowed`), so the note on
  shadowing only stands where there are no terms.

Together they say what the summary of a run reads, line by line (`Selection.summary_run`).
-/

set_option autoImplicit false

namespace ShareStreaks

variable {directory : Path} {os : List Outcome} {o : Outcome}

/-! ## One line -/

/-- The file shown is the outcome's own. -/
theorem shownFile_written (ho : o ∈ nonempty os) :
    o.shownFile ((nonempty os).map (Outcome.file directory)) = (o.path directory).text := by
  have hends (o' : Outcome) : (o'.file directory).path.endsWith o.threshold.fileName = true ↔
      o'.threshold.fileName = o.threshold.fileName :=
    Path.endsWith_join directory o'.threshold.isEntryName_fileName _
  rw [Outcome.shownFile]
  split
  · rename_i w hw
    obtain ⟨o', -, rfl⟩ := List.mem_map.1 (List.mem_of_find?_eq_some hw)
    have hname : o'.threshold.fileName = o.threshold.fileName := by
      have hsome := List.find?_some hw
      exact (hends o').1 hsome
    simp only [Outcome.file, Outcome.path, hname]
  · rename_i hnone
    have hmem := List.mem_map_of_mem (f := Outcome.file directory) ho
    exact absurd ((hends o).2 rfl) (List.find?_eq_none.1 hnone _ hmem)

theorem summaryLine_of_nil (written : List WrittenFile) (shadowed : List Nat)
    (ho : o.findings = []) (index : Nat) :
    summaryLine written shadowed o index = o.threshold.description ++ ": no new terms"
      ++ (if index ∈ shadowed then " (shadowed by an earlier filter)" else "") ++ "\n" := by
  simp [summaryLine, ho]

theorem summaryLine_of_ne (ho : o ∈ nonempty os) {shadowed : List Nat} {index : Nat}
    (hindex : index ∉ shadowed) :
    summaryLine ((nonempty os).map (Outcome.file directory)) shadowed o index =
      o.threshold.description ++ ": " ++ toString o.findings.length ++ " new terms -> "
        ++ (o.path directory).text ++ "\n" := by
  simp [summaryLine, (mem_nonempty.1 ho).2, shownFile_written ho, hindex, decimalText_eq]

theorem getElem?_summaryLines (written : List WrittenFile) (shadowed : List Nat) (i : Nat) :
    (summaryLines os written shadowed)[i]? =
      os[i]?.map fun o => summaryLine written shadowed o i := by
  simp [summaryLines, Function.comp_def]

theorem totalFindings_eq_sum (os : List Outcome) :
    totalFindings os = (os.map fun o => o.findings.length).sum := by
  rw [totalFindings, List.length_flatMap]

theorem summary_eq (os : List Outcome) (written : List WrittenFile) (shadowed : List Nat) :
    summary os written shadowed =
      "\n--- Term Streak Analysis ---\n" ++ String.join (summaryLines os written shadowed)
        ++ "Total terms reported: " ++ toString (os.map fun o => o.findings.length).sum ++ "\n"
        ++ (if shadowed = [] then ""
            else "Shadowed filters: " ++ toString shadowed.length ++ "\n") := by
  have hlast (s : String) :
      (if shadowed = [] then "" else s) = if shadowed.isEmpty then "" else s := by
    by_cases hnone : shadowed = []
    · simp [hnone]
    · simp [hnone]
  rw [hlast, ← totalFindings_eq_sum, ← decimalText_eq, ← decimalText_eq]
  rfl

/-! ## Runs -/

namespace Selection

variable {table : TermTable} {ts : List Threshold}

/-- Outcomes with findings at two places of a run are of two thresholds. -/
theorem eq_of_threshold_eq {i j : Nat} {a b : Outcome}
    (ha : (run table ts).outcomes[i]? = some a) (hb : (run table ts).outcomes[j]? = some b)
    (hane : a.findings ≠ []) (hbne : b.findings ≠ []) (h : a.threshold = b.threshold) : i = j := by
  have hlt {i j : Nat} {a b : Outcome} (ha : (run table ts).outcomes[i]? = some a)
      (hb : (run table ts).outcomes[j]? = some b) (hbne : b.findings ≠ [])
      (h : a.threshold = b.threshold) : ¬ i < j := by
    intro hij
    obtain ⟨hi, rfl⟩ := List.getElem?_eq_some_iff.1 ha
    obtain ⟨hj, rfl⟩ := List.getElem?_eq_some_iff.1 hb
    exact hbne (List.pairwise_iff_getElem.1 (pairwise_run table ts) i j hi hj hij h)
  have hij := hlt ha hb hbne h
  have hji := hlt hb ha hane h.symm
  omega

theorem notMem_shadowed {i : Nat} (ho : (run table ts).outcomes[i]? = some o)
    (hne : o.findings ≠ []) : i ∉ shadowed ts := by
  intro hi
  obtain ⟨t, ht, hcovered⟩ := mem_shadowed_iff.1 hi
  rw [getElem?_run, ht, Option.map_some, Option.some_inj] at ho
  rw [← ho] at hne
  exact hne (TermTable.remaining_eq_nil hcovered)

theorem length_outcomes_runFrom (table : TermTable) (seen : List String) (ts : List Threshold) :
    (runFrom table seen ts).outcomes.length = ts.length := by
  induction ts generalizing seen with
  | nil => rfl
  | cons t ts ih =>
    rw [runFrom]
    simp only [outcomes, List.map_cons, List.length_cons]
    exact congrArg (· + 1) (ih _)

theorem exists_outcome_run (table : TermTable) {i : Nat} {t : Threshold} (ht : ts[i]? = some t) :
    ∃ o, (run table ts).outcomes[i]? = some o ∧ o.threshold = t :=
  ⟨_, getElem?_run_of_eq_some table ts ht, rfl⟩

/-- **The summary tells where results are.**  If the files of a run could be written, its summary has
one line for each threshold, in their order.  The line of a threshold that was given terms tells how
many, and the path of a file that was written, holds just these findings, and is the file of no other
outcome; it has no note.  The line of a threshold that was given none says so, and has the note exactly
if the threshold is shadowed.  The total is the sum of these numbers, and there is a last line with the
number of shadowed thresholds exactly if there are any. -/
theorem summary_run (table : TermTable) (ts : List Threshold) (directory : Path) (tree : FileTree)
    (h : (fileOutcomes directory (run table ts).outcomes tree).fault = none) :
    let outcomes := (run table ts).outcomes
    let filing := fileOutcomes directory outcomes tree
    ∃ lines : List String,
      summary outcomes filing.written (shadowed ts) =
        "\n--- Term Streak Analysis ---\n" ++ String.join lines ++ "Total terms reported: "
          ++ toString (outcomes.map fun o => o.findings.length).sum ++ "\n"
          ++ (if shadowed ts = [] then ""
              else "Shadowed filters: " ++ toString (shadowed ts).length ++ "\n") ∧
      lines.length = ts.length ∧
      ∀ i t, ts[i]? = some t → ∃ o, outcomes[i]? = some o ∧ o.threshold = t ∧
        (o.findings = [] → lines[i]? = some (t.description ++ ": no new terms"
          ++ (if i ∈ shadowed ts then " (shadowed by an earlier filter)" else "") ++ "\n")) ∧
        (o.findings ≠ [] →
          lines[i]? = some (t.description ++ ": " ++ toString o.findings.length
            ++ " new terms -> " ++ (directory.join t.fileName).text ++ "\n") ∧
          i ∉ shadowed ts ∧
          ⟨directory.join t.fileName, o.findings.length⟩ ∈ filing.written ∧
          filing.tree.find? (directory.join t.fileName) =
            some (.file (.text (resultText o.findings))) ∧
          ∀ j o', outcomes[j]? = some o' → o'.findings ≠ [] →
            o'.path directory = directory.join t.fileName → j = i) := by
  obtain ⟨tree', -, heq⟩ := fileOutcomes_of_fault_eq_none h
  rw [heq] at h
  have hwritten := written_writeFiles h
  simp only [heq, hwritten]
  refine ⟨summaryLines (run table ts).outcomes
    ((nonempty (run table ts).outcomes).map (Outcome.file directory)) (shadowed ts), ?_, ?_, ?_⟩
  · exact summary_eq _ _ _
  · rw [summaryLines, List.length_map, List.length_zipIdx, run, length_outcomes_runFrom]
  · intro i t ht
    obtain ⟨o, ho, rfl⟩ := exists_outcome_run table ht
    refine ⟨o, ho, rfl, ?_, ?_⟩
    · intro hnil
      rw [getElem?_summaryLines, ho, Option.map_some, summaryLine_of_nil _ _ hnil]
    · intro hne
      have hmem := mem_nonempty.2 ⟨List.mem_of_getElem? ho, hne⟩
      have hindex := notMem_shadowed ho hne
      refine ⟨?_, hindex, List.mem_map_of_mem (f := Outcome.file directory) hmem,
        find?_writeFiles_run table ts hmem h, ?_⟩
      · rw [getElem?_summaryLines, ho, Option.map_some, summaryLine_of_ne hmem hindex,
          Outcome.path]
      · intro j o' hj hjne hpath
        exact eq_of_threshold_eq hj ho hjne hne (Threshold.fileName_inj.1 (Path.join_inj hpath))

/-- The second threshold asks for more than the first one, which has taken the only term. -/
theorem summary_run_shadowed :
    let share : Binary64 := .ofBits 0x3FC0000000000000
    let lenient : Threshold := ⟨.ofBits 0x3FB0000000000000, 1, by decide, by decide, by decide⟩
    let strict : Threshold := ⟨share, 2, by decide, by decide, by decide⟩
    let table : TermTable := ⟨[("a", ⟨[(2020, share), (2021, share)], by decide⟩)], by decide⟩
    let outcomes := (run table [lenient, strict]).outcomes
    let filing := fileOutcomes ⟨"out/"⟩ outcomes (.empty ["home"])
    filing.fault = none ∧ shadowed [lenient, strict] = [1] ∧
    ∃ lines : List String,
      summary outcomes filing.written (shadowed [lenient, strict]) =
        "\n--- Term Streak Analysis ---\n" ++ String.join lines
          ++ "Total terms reported: 1\nShadowed filters: 1\n" ∧
      lines[0]? = some ">= 6.25% for 1 consecutive years: 1 new terms -> out/terms_0.0625_1.txt\n" ∧
      lines[1]? = some
        ">= 12.50% for 2 consecutive years: no new terms (shadowed by an earlier filter)\n" := by
  intro share lenient strict table outcomes filing
  have houtcomes : outcomes = [⟨lenient, [⟨"a", ⟨share, share⟩⟩]⟩, ⟨strict, []⟩] := by
    have hlenient : table.ranking lenient = [⟨"a", ⟨share, share⟩⟩] :=
      (TermTable.ranking_eq_findings (by decide)).trans (by decide)
    have hstrict : table.ranking strict = [⟨"a", ⟨share, share⟩⟩] :=
      (TermTable.ranking_eq_findings (by decide)).trans (by decide)
    simp only [outcomes, run, runFrom, hlenient, hstrict]
    decide
  have hfault : filing.fault = none := by
    simp only [filing]
    rw [houtcomes]
    decide +kernel
  have hshadowed : shadowed [lenient, strict] = [1] := by decide
  have hdescription : lenient.description = ">= 6.25% for 1 consecutive years" ∧
      strict.description = ">= 12.50% for 2 consecutive years" := by decide +kernel
  have hpath : (Path.join ⟨"out/"⟩ lenient.fileName).text = "out/terms_0.0625_1.txt" := by
    decide +kernel
  obtain ⟨lines, hsummary, -, hlines⟩ := summary_run table _ ⟨"out/"⟩ (.empty ["home"]) hfault
  refine ⟨hfault, hshadowed, lines, ?_, ?_, ?_⟩
  · have htotal : (outcomes.map fun o => o.findings.length).sum = 1 := by
      rw [houtcomes]
      rfl
    rw [hsummary, htotal, hshadowed, if_neg (List.cons_ne_nil _ _), String.append_assoc,
      String.append_assoc, String.append_assoc]
    rfl
  · obtain ⟨o, ho, -, -, hsome⟩ := hlines 0 lenient rfl
    obtain rfl : o = ⟨lenient, [⟨"a", ⟨share, share⟩⟩]⟩ :=
      Option.some_inj.1 (ho.symm.trans (congrArg (·[0]?) houtcomes))
    rw [(hsome (List.cons_ne_nil _ _)).1, hpath, hdescription.1, List.length_singleton]
    decide +kernel
  · obtain ⟨o, ho, -, hnil, -⟩ := hlines 1 strict rfl
    obtain rfl : o = ⟨strict, []⟩ :=
      Option.some_inj.1 (ho.symm.trans (congrArg (·[1]?) houtcomes))
    rw [hnil rfl, hdescription.2, hshadowed, if_pos (List.mem_singleton.2 rfl)]
    rfl

end Selection
end ShareStreaks
