import Mathlib.Data.List.Nodup
import Mathlib.Data.List.Pairwise
import ShareStreaks.Output.Files
import ShareStreaks.Proofs.Disk.FileTree
import ShareStreaks.Proofs.Selection.FirstMet
import ShareStreaks.Proofs.Threshold.FileName

/-!
# No result is lost on the disk

Writing result files does not ask whether two outcomes have the same file.  What is needed for a run
is put together from two halves.

* Outcomes of different thresholds have different files, since a file name tells its threshold.  A
  file stays what it was while files of other names are written (`find?_writeFiles`).
* Of the outcomes of one threshold only the first has findings (`Selection.pairwise_run`), and an
  outcome without findings has no file.

So when everything could be written, every outcome with findings has a file that holds these and
nothing else (`Selection.run_files_kept`).
-/

set_option autoImplicit false

namespace ShareStreaks

variable {directory : Path} {t : FileTree} {o : Outcome} {os : List Outcome}

/-! ## One file -/

/-- The file that an outcome is written to. -/
def Outcome.file (directory : Path) (o : Outcome) : WrittenFile :=
  ⟨o.path directory, o.findings.length⟩

/-- The outcomes that get a file. -/
def nonempty (os : List Outcome) : List Outcome := os.filter fun o => !o.findings.isEmpty

theorem mem_nonempty : o ∈ nonempty os ↔ o ∈ os ∧ o.findings ≠ [] := by
  rw [nonempty, List.mem_filter, Bool.not_eq_true', List.isEmpty_eq_false_iff]

theorem nonempty_append (os os' : List Outcome) :
    nonempty (os ++ os') = nonempty os ++ nonempty os' := List.filter_append ..

theorem nonempty_cons_of_nil (h : o.findings = []) : nonempty (o :: os) = nonempty os := by
  simp [nonempty, h]

theorem nonempty_cons_of_ne (h : o.findings ≠ []) : nonempty (o :: os) = o :: nonempty os := by
  simp [nonempty, h]

theorem writeFiles_cons_of_nil (h : o.findings = []) :
    writeFiles directory (o :: os) t = writeFiles directory os t := by
  rw [writeFiles, h, List.isEmpty_nil, if_pos rfl]

theorem writeFiles_cons_of_error {cause : FileFault} (h : o.findings ≠ [])
    (hwrite : t.write (o.path directory) (resultText o.findings) = .error cause) :
    writeFiles directory (o :: os) t = ⟨t, [], some (.file (o.path directory) cause)⟩ := by
  have hempty : o.findings.isEmpty = false := List.isEmpty_eq_false_iff.2 h
  simp only [writeFiles, hempty, if_neg Bool.false_ne_true, hwrite]

theorem writeFiles_cons_of_ok {t' : FileTree} (h : o.findings ≠ [])
    (hwrite : t.write (o.path directory) (resultText o.findings) = .ok t') :
    writeFiles directory (o :: os) t =
      { writeFiles directory os t' with
        written := o.file directory :: (writeFiles directory os t').written } := by
  have hempty : o.findings.isEmpty = false := List.isEmpty_eq_false_iff.2 h
  simp only [writeFiles, hempty, if_neg Bool.false_ne_true, hwrite, Outcome.file]

/-- **What one outcome adds.**  If all goes well, its file is written first, and the others after it
on the disk that this leaves. -/
theorem writeFiles_cons_of_ne (h : o.findings ≠ [])
    (hfault : (writeFiles directory (o :: os) t).fault = none) :
    ∃ t', t.write (o.path directory) (resultText o.findings) = .ok t' ∧
      (writeFiles directory os t').fault = none ∧
      (writeFiles directory (o :: os) t).tree = (writeFiles directory os t').tree ∧
      (writeFiles directory (o :: os) t).written =
        o.file directory :: (writeFiles directory os t').written := by
  cases hwrite : t.write (o.path directory) (resultText o.findings) with
  | error cause =>
    rw [writeFiles_cons_of_error h hwrite] at hfault
    exact nomatch hfault
  | ok t' =>
    rw [writeFiles_cons_of_ok h hwrite] at hfault ⊢
    exact ⟨t', rfl, hfault, rfl, rfl⟩

/-! ## All files -/

/-- The files written are those of the outcomes with findings, in their order. -/
theorem written_writeFiles (h : (writeFiles directory os t).fault = none) :
    (writeFiles directory os t).written = (nonempty os).map (Outcome.file directory) := by
  induction os generalizing t with
  | nil => rfl
  | cons o os ih =>
    by_cases hne : o.findings = []
    · rw [writeFiles_cons_of_nil hne] at h ⊢
      rw [nonempty_cons_of_nil hne, ih h]
    · obtain ⟨t', -, hrest, -, hwritten⟩ := writeFiles_cons_of_ne hne h
      rw [hwritten, nonempty_cons_of_ne hne, List.map_cons, ih hrest]

/-- A file whose name no outcome has stays what it was. -/
theorem find?_writeFiles_of_ne {name : String} {c : Content} (hname : IsEntryName name)
    (h : (writeFiles directory os t).fault = none)
    (hne : ∀ o ∈ nonempty os, o.threshold.fileName ≠ name)
    (hfind : t.find? (directory.join name) = some (.file c)) :
    (writeFiles directory os t).tree.find? (directory.join name) = some (.file c) := by
  induction os generalizing t with
  | nil => exact hfind
  | cons o os ih =>
    by_cases ho : o.findings = []
    · rw [nonempty_cons_of_nil ho] at hne
      rw [writeFiles_cons_of_nil ho] at h ⊢
      exact ih h hne hfind
    · rw [nonempty_cons_of_ne ho, List.forall_mem_cons] at hne
      obtain ⟨t', hwrite, hrest, htree, -⟩ := writeFiles_cons_of_ne ho h
      rw [htree]
      refine ih hrest hne.2 (FileTree.find?_of_write_ne hname ?_ (Ne.symm hne.1) hfind hwrite)
      exact o.threshold.isEntryName_fileName

/-- **A file that no later outcome shares holds the findings of its outcome.** -/
theorem find?_writeFiles {before after : List Outcome} (ho : o.findings ≠ [])
    (h : (writeFiles directory (before ++ o :: after) t).fault = none)
    (hne : ∀ o' ∈ nonempty after, o'.threshold.fileName ≠ o.threshold.fileName) :
    (writeFiles directory (before ++ o :: after) t).tree.find? (o.path directory) =
      some (.file (.text (resultText o.findings))) := by
  induction before generalizing t with
  | nil =>
    rw [List.nil_append] at h ⊢
    obtain ⟨t', hwrite, hrest, htree, -⟩ := writeFiles_cons_of_ne ho h
    rw [htree]
    exact find?_writeFiles_of_ne o.threshold.isEntryName_fileName hrest hne
      (FileTree.find?_of_write hwrite)
  | cons b before ih =>
    rw [List.cons_append] at h ⊢
    by_cases hb : b.findings = []
    · rw [writeFiles_cons_of_nil hb] at h ⊢
      exact ih h
    · obtain ⟨t', -, hrest, htree, -⟩ := writeFiles_cons_of_ne hb h
      rw [htree]
      exact ih hrest

/-- Nothing is written before the directory is there. -/
theorem fileOutcomes_of_fault_eq_none (h : (fileOutcomes directory os t).fault = none) :
    ∃ t', t.makeDirectories directory = (t', none) ∧
      fileOutcomes directory os t = writeFiles directory os t' := by
  rw [fileOutcomes] at h ⊢
  split at h
  · exact absurd h (by simp)
  · rename_i t' ht'
    exact ⟨t', ht', rfl⟩

/-! ## Texts -/

/-- A result file is made of the lines of its findings. -/
theorem resultText_append_cons (before after : List Finding) (f : Finding) :
    resultText (before ++ f :: after) =
      resultText before ++ String.ofList (f.line ++ ['\n']) ++ resultText after := by
  rw [resultText, List.flatMap_append, List.flatMap_cons, String.ofList_append,
    String.ofList_append, ← String.append_assoc]
  rfl

/-! ## The files of a selection -/

namespace Selection

variable (table : TermTable) (ts : List Threshold)

/-- No two outcomes with findings have the same file name. -/
theorem pairwise_fileName_run :
    (nonempty (run table ts).outcomes).Pairwise fun a b =>
      a.threshold.fileName ≠ b.threshold.fileName := by
  refine ((pairwise_run table ts).filter _).imp_of_mem fun _ hb hab hname => ?_
  exact (mem_nonempty.1 hb).2 (hab (Threshold.fileName_inj.1 hname))

/-- The file of an outcome with findings holds its findings after the whole run. -/
theorem find?_writeFiles_run {tree : FileTree} {o : Outcome}
    (ho : o ∈ nonempty (run table ts).outcomes)
    (h : (writeFiles directory (run table ts).outcomes tree).fault = none) :
    (writeFiles directory (run table ts).outcomes tree).tree.find? (o.path directory) =
      some (.file (.text (resultText o.findings))) := by
  have hnames := pairwise_fileName_run table ts
  obtain ⟨hmem, hne⟩ := mem_nonempty.1 ho
  obtain ⟨before, after, hsplit⟩ := List.append_of_mem hmem
  rw [hsplit] at h hnames ⊢
  refine find?_writeFiles hne h fun o' ho' => ?_
  rw [nonempty_append, nonempty_cons_of_ne hne, List.pairwise_append] at hnames
  exact Ne.symm (List.rel_of_pairwise_cons hnames.2.1 ho')

/-- A term that meets a threshold has one finding in one outcome. -/
theorem exists_finding_run {term : String} (h : ∃ t ∈ ts, table.meets t term = true) :
    ∃ o ∈ (run table ts).outcomes, ∃ before f after, o.findings = before ++ f :: after ∧
      f.term = term ∧ (∀ g ∈ before ++ after, g.term ≠ term) ∧
      ∀ o' ∈ (run table ts).outcomes, o' ≠ o → ∀ g ∈ o'.findings, g.term ≠ term := by
  obtain ⟨hnodup, hdisjoint⟩ := List.nodup_flatMap.1 (nodup_termsOf_run table ts)
  obtain ⟨o, ho, hterm⟩ := List.mem_flatMap.1 ((mem_termsOf_run table ts).2 h)
  obtain ⟨f, hf, rfl⟩ := List.mem_map.1 hterm
  obtain ⟨before, after, hsplit⟩ := List.append_of_mem hf
  refine ⟨o, ho, before, f, after, hsplit, rfl, fun g hg hgterm => ?_,
    fun o' ho' hne g hg hgterm => ?_⟩
  · have hterms := hnodup o ho
    rw [Outcome.terms, hsplit, List.map_append, List.map_cons, List.nodup_middle, List.nodup_cons,
      ← List.map_append] at hterms
    exact hterms.1 (hgterm ▸ List.mem_map_of_mem hg)
  · have : Std.Symm fun a b : Outcome => a.terms.Disjoint b.terms := ⟨fun _ _ => List.disjoint_symm⟩
    have hdisj :=
      List.Pairwise.forall (R := fun a b => a.terms.Disjoint b.terms) hdisjoint ho' ho hne
    exact hdisj (hgterm ▸ List.mem_map_of_mem hg) hterm

/-- **No result is lost on the disk.**  If the files of a run could be written, their paths are all
different, and each is that of an entry of the directory, named after one of the thresholds.  There
is one for every outcome with findings, in their order, and in the end it holds the findings of this
outcome and nothing else.  So a term that meets a threshold has its line in one of the files, once,
and in no other one. -/
theorem run_files_kept (directory : Path) (tree : FileTree)
    (h : (fileOutcomes directory (run table ts).outcomes tree).fault = none) :
    let filing := fileOutcomes directory (run table ts).outcomes tree
    (filing.written.map WrittenFile.path).Nodup ∧
    (∀ w ∈ filing.written, ∃ t ∈ ts, w.path = directory.join t.fileName ∧
      '/' ∉ t.fileName.toList ∧ w.path.segments = directory.segments ++ [t.fileName]) ∧
    filing.written = (nonempty (run table ts).outcomes).map
      (fun o => ⟨directory.join o.threshold.fileName, o.findings.length⟩) ∧
    (∀ o ∈ nonempty (run table ts).outcomes,
      filing.tree.find? (directory.join o.threshold.fileName) =
        some (.file (.text (resultText o.findings)))) ∧
    ∀ term, (∃ t ∈ ts, table.meets t term = true) →
      ∃ o ∈ nonempty (run table ts).outcomes, ∃ before f after,
        o.findings = before ++ f :: after ∧ f.term = term ∧
        filing.tree.find? (directory.join o.threshold.fileName) = some (.file (.text
          (resultText before ++ String.ofList (f.line ++ ['\n']) ++ resultText after))) ∧
        (∀ g ∈ before ++ after, g.term ≠ term) ∧
        ∀ o' ∈ (run table ts).outcomes, o' ≠ o → ∀ g ∈ o'.findings, g.term ≠ term := by
  obtain ⟨t, -, heq⟩ := fileOutcomes_of_fault_eq_none h
  rw [heq] at h ⊢
  have hwritten := written_writeFiles h
  have hfind {o : Outcome} (ho : o ∈ nonempty (run table ts).outcomes) :=
    find?_writeFiles_run table ts ho h
  refine ⟨?_, fun w hw => ?_, hwritten, fun o ho => hfind ho, fun term hterm => ?_⟩
  · rw [hwritten, List.map_map, List.Nodup, List.pairwise_map]
    exact (pairwise_fileName_run table ts).imp fun hne hjoin => hne (Path.join_inj hjoin)
  · rw [hwritten] at hw
    obtain ⟨o, ho, rfl⟩ := List.mem_map.1 hw
    exact ⟨o.threshold, mem_thresholds_run table ts (mem_nonempty.1 ho).1, rfl,
      o.threshold.slash_notMem_fileName,
      Path.segments_join directory o.threshold.isEntryName_fileName⟩
  · obtain ⟨o, ho, before, f, after, hsplit, hf, hrest, hothers⟩ :=
      exists_finding_run table ts hterm
    have hmem : o ∈ nonempty (run table ts).outcomes := by
      refine mem_nonempty.2 ⟨ho, ?_⟩
      rw [hsplit]
      exact List.append_ne_nil_of_right_ne_nil _ (List.cons_ne_nil _ _)
    refine ⟨o, hmem, before, f, after, hsplit, hf, ?_, hrest, hothers⟩
    rw [← resultText_append_cons, ← hsplit]
    exact hfind hmem

/-- Of the two zeros, which have different file names, only the one that comes first gets a file.
The threshold that is there twice gets one file as well. -/
theorem run_files_kept_zeros :
    let tenth : Binary64 := .ofBits 0x3FB999999999999A
    let strict : Threshold := ⟨tenth, 2, by decide, by decide, by decide⟩
    let minus : Threshold := ⟨Binary64.zero.negated, 1, by decide, by decide, by decide⟩
    let plus : Threshold := ⟨.zero, 1, by decide, by decide, by decide⟩
    let table : TermTable :=
      ⟨[("a", ⟨[(2019, tenth), (2020, tenth)], by decide⟩), ("b", ⟨[(2020, .zero)], by decide⟩)],
        by decide⟩
    let outcomes := (run table [strict, minus, plus, strict]).outcomes
    let filing := fileOutcomes ⟨"out"⟩ outcomes (.empty ["home"])
    filing.fault = none ∧
    filing.written = [⟨⟨"out/terms_0.1_2.txt"⟩, 1⟩, ⟨⟨"out/terms_-0.0_1.txt"⟩, 1⟩] ∧
    (filing.written.map WrittenFile.path).Nodup ∧
    ∀ o ∈ nonempty outcomes, filing.tree.find? (Path.join ⟨"out"⟩ o.threshold.fileName) =
      some (.file (.text (resultText o.findings))) := by
  intro tenth strict minus plus table outcomes filing
  have houtcomes : outcomes = [⟨strict, [⟨"a", ⟨tenth, tenth⟩⟩]⟩, ⟨minus, [⟨"b", ⟨.zero, .zero⟩⟩]⟩,
      ⟨plus, []⟩, ⟨strict, []⟩] := by
    have hstrict : table.ranking strict = [⟨"a", ⟨tenth, tenth⟩⟩] :=
      (TermTable.ranking_eq_findings (by decide)).trans (by decide)
    have hminus : table.ranking minus = [⟨"a", ⟨tenth, tenth⟩⟩, ⟨"b", ⟨.zero, .zero⟩⟩] :=
      (TermTable.ranking_eq_findings (by decide)).trans (by decide)
    have hplus : table.ranking plus = [⟨"a", ⟨tenth, tenth⟩⟩, ⟨"b", ⟨.zero, .zero⟩⟩] :=
      (TermTable.ranking_eq_findings (by decide)).trans (by decide)
    simp only [outcomes, run, runFrom, hstrict, hminus, hplus]
    decide
  have hfault : filing.fault = none := by
    simp only [filing]
    rw [houtcomes]
    decide +kernel
  have hwritten : filing.written =
      [⟨⟨"out/terms_0.1_2.txt"⟩, 1⟩, ⟨⟨"out/terms_-0.0_1.txt"⟩, 1⟩] := by
    simp only [filing]
    rw [houtcomes]
    decide +kernel
  obtain ⟨hnodup, -, -, hfind, -⟩ := run_files_kept table _ ⟨"out"⟩ (.empty ["home"]) hfault
  exact ⟨hfault, hwritten, hnodup, hfind⟩

end Selection
end ShareStreaks
