import ShareStreaks.Disk.DatabaseName
import ShareStreaks.Proofs.Disk.Directories
import ShareStreaks.Proofs.Output.Files

/-!
# What writing results changes

Whatever the outcomes, the directory and the disk are, and wherever writing stops: what has changed is
the directories that were made and the files that were written (`fileOutcomes_changes`).  For any
outcomes at all two of them may share a file, and then the later one stands.

What a list of outcomes does to a disk on which nothing goes wrong is said once (`HoldsFiles`).  A run
that ends with a fault has left behind what the outcomes before the one at fault have left
(`writeFiles_of_fault`), so that this says what is on the disk then as well.
-/

set_option autoImplicit false

namespace ShareStreaks

open FileTree

variable {directory : Path} {t t' : FileTree} {o : Outcome} {os : List Outcome}

/-! ## One file -/

/-- Where the file of an outcome is. -/
def Outcome.place (directory : Path) (t : FileTree) (o : Outcome) : Place :=
  t.namedPlace directory ++ [o.threshold.fileName]

theorem Outcome.place_congr (h : t'.here = t.here) (directory : Path) :
    Outcome.place directory t' = Outcome.place directory t := by
  funext o
  rw [place, place, namedPlace, namedPlace, start, start, h]

theorem Outcome.follow_path {q : Place} (h : t.follow (o.path directory) = .ok q) :
    q = o.place directory t := by
  obtain ⟨d, hwalk, rfl⟩ := follow_join o.threshold.isEntryName_fileName h
  rw [walk_eq_foldl hwalk]
  rfl

/-- Writing the file of an outcome changes what is at its place, which was no directory. -/
theorem write_path_eq_ok {text : String} (h : t.write (o.path directory) text = .ok t') :
    t.at? (o.place directory t) ≠ some .directory ∧
      t' = t.put (o.place directory t) (.file (.text text)) := by
  obtain ⟨q, hfollow, hdir, -, rfl⟩ := write_eq_ok h
  obtain rfl := Outcome.follow_path hfollow
  exact ⟨hdir, rfl⟩

/-! ## All files -/

/-- Files are written, and no directory comes or goes. -/
theorem keeps_writeFiles (directory : Path) (os : List Outcome) (t : FileTree) :
    Keeps t (writeFiles directory os t).tree ∧ Keeps (writeFiles directory os t).tree t := by
  induction os generalizing t with
  | nil => exact ⟨Keeps.refl t, Keeps.refl t⟩
  | cons o os ih =>
    by_cases ho : o.findings = []
    · rw [writeFiles_cons_of_nil ho]
      exact ih t
    · cases hwrite : t.write (o.path directory) (resultText o.findings) with
      | error cause =>
        rw [writeFiles_cons_of_error ho hwrite]
        exact ⟨Keeps.refl t, Keeps.refl t⟩
      | ok t' =>
        rw [writeFiles_cons_of_ok ho hwrite]
        obtain ⟨hthere, hback⟩ := ih t'
        have hput : Keeps t' t := by
          rw [(write_path_eq_ok hwrite).2]
          exact keeps_of_put_file t _ _
        exact ⟨(keeps_write hwrite).trans hthere, hback.trans hput⟩

theorem at?_writeFiles (h : (writeFiles directory os t).fault = none) {q : Place}
    (hq : ∀ o ∈ nonempty os, q ≠ o.place directory t) :
    (writeFiles directory os t).tree.at? q = t.at? q := by
  induction os generalizing t with
  | nil => rfl
  | cons o os ih =>
    by_cases ho : o.findings = []
    · rw [nonempty_cons_of_nil ho] at hq
      rw [writeFiles_cons_of_nil ho] at h ⊢
      exact ih h hq
    · rw [nonempty_cons_of_ne ho, List.forall_mem_cons] at hq
      obtain ⟨t', hwrite, hrest, htree, -⟩ := writeFiles_cons_of_ne ho h
      rw [htree, ih hrest, (write_path_eq_ok hwrite).2, at?_put, if_neg (fun hand => hq.1 hand.1)]
      rw [Outcome.place_congr (keeps_write hwrite).here_eq]
      exact hq.2

/-- There is no directory in the way of a file that could be written. -/
theorem find?_ne_directory_of_writeFiles (h : (writeFiles directory os t).fault = none)
    (ho : o ∈ nonempty os) : t.find? (o.path directory) ≠ some .directory := by
  induction os generalizing t with
  | nil => exact absurd ho (by simp [nonempty])
  | cons o' os ih =>
    by_cases hne : o'.findings = []
    · rw [nonempty_cons_of_nil hne] at ho
      rw [writeFiles_cons_of_nil hne] at h
      exact ih h ho
    · rw [nonempty_cons_of_ne hne, List.mem_cons] at ho
      obtain ⟨t', hwrite, hrest, -, -⟩ := writeFiles_cons_of_ne hne h
      intro hfind
      rcases ho with rfl | ho
      · obtain ⟨q, hfollow, hdir, -⟩ := find?_eq_directory.1 hfind
        rw [Outcome.follow_path hfollow] at hdir
        exact (write_path_eq_ok hwrite).1 hdir
      · exact ih hrest ho ((keeps_write hwrite).find?_eq_directory hfind)

/-- The second disk is the first one with the files of outcomes on it.  The file of an outcome holds
its findings unless a later one has the same file.  At every other place is what was there, so that a
path leads to what it led to unless it is a path to one of the files. -/
structure HoldsFiles (directory : Path) (os : List Outcome) (t t' : FileTree) : Prop where
  here_eq : t'.here = t.here
  find?_eq : ∀ before o after, os = before ++ o :: after → o.findings ≠ [] →
    (∀ o' ∈ nonempty after, o'.threshold.fileName ≠ o.threshold.fileName) →
    t'.find? (o.path directory) = some (.file (.text (resultText o.findings)))
  at?_eq : ∀ q, (∀ o ∈ nonempty os, q ≠ o.place directory t) → t'.at? q = t.at? q
  find?_eq_of_ne : ∀ p, (∀ o ∈ nonempty os, t.follow p ≠ .ok (o.place directory t)) →
    t'.find? p = t.find? p

/-- **What is on the disk when all files could be written.** -/
theorem holdsFiles_writeFiles (h : (writeFiles directory os t).fault = none) :
    HoldsFiles directory os t (writeFiles directory os t).tree := by
  obtain ⟨hthere, hback⟩ := keeps_writeFiles directory os t
  refine ⟨hthere.here_eq, ?_, fun q hq => at?_writeFiles h hq, fun p hp => ?_⟩
  · rintro before o after rfl ho hafter
    exact find?_writeFiles ho h hafter
  · refine find?_congr hthere hback fun q hfollow => at?_writeFiles h ?_
    rintro o ho rfl
    exact hp o ho hfollow

/-- **Where writing stops.**  The outcomes before the one whose file cannot be written have been
written as if they were all there are. -/
theorem writeFiles_of_fault {fault : FilingFault}
    (h : (writeFiles directory os t).fault = some fault) :
    ∃ before o after cause, os = before ++ o :: after ∧ o.findings ≠ [] ∧
      fault = .file (o.path directory) cause ∧
      writeFiles directory os t = { writeFiles directory before t with fault := some fault } ∧
      (writeFiles directory before t).fault = none ∧
      (writeFiles directory before t).tree.write (o.path directory) (resultText o.findings) =
        .error cause := by
  induction os generalizing t with
  | nil => exact nomatch h
  | cons o os ih =>
    by_cases ho : o.findings = []
    · rw [writeFiles_cons_of_nil ho] at h ⊢
      obtain ⟨before, o', after, cause, rfl, ho', hfault, heq, hnone, hwrite⟩ := ih h
      refine ⟨o :: before, o', after, cause, rfl, ho', hfault, ?_⟩
      rw [writeFiles_cons_of_nil ho]
      exact ⟨heq, hnone, hwrite⟩
    · cases hfirst : t.write (o.path directory) (resultText o.findings) with
      | error cause =>
        rw [writeFiles_cons_of_error ho hfirst] at h ⊢
        obtain rfl := Option.some_inj.1 h
        exact ⟨[], o, os, cause, rfl, ho, rfl, rfl, rfl, hfirst⟩
      | ok t' =>
        rw [writeFiles_cons_of_ok ho hfirst] at h ⊢
        obtain ⟨before, o', after, cause, rfl, ho', hfault, heq, hnone, hwrite⟩ := ih h
        refine ⟨o :: before, o', after, cause, rfl, ho', hfault, ?_⟩
        rw [writeFiles_cons_of_ok ho hfirst]
        exact ⟨by rw [heq], hnone, hwrite⟩

/-! ## The directory and the files -/

theorem fileOutcomes_of_cause {cause : FileFault}
    (h : (t.makeDirectories directory).2 = some cause) :
    fileOutcomes directory os t =
      ⟨(t.makeDirectories directory).1, [], some (.directory directory cause)⟩ := by
  rw [fileOutcomes]
  split
  · rename_i made cause' heq
    rw [heq] at h ⊢
    rw [Option.some_inj.1 h]
  · rename_i heq
    rw [heq] at h
    cases h

theorem fileOutcomes_of_made (h : (t.makeDirectories directory).2 = none) :
    fileOutcomes directory os t = writeFiles directory os (t.makeDirectories directory).1 := by
  rw [fileOutcomes]
  split
  · rename_i heq
    rw [heq] at h
    cases h
  · rename_i heq
    rw [heq]

/-- **Only what is reported has changed.**  Making the output directory puts directories where nothing
was on the way to it, and does nothing else.

Without a fault, all of these directories are there and so are the files of all outcomes with findings,
which are reported in their order.  A file that is named after any other threshold is what it was.

If the directory cannot be made, the files are those that there were.

If a file cannot be written, which is so whenever a directory has its name, there are the files of the
outcomes before it and nothing has come after them. -/
theorem fileOutcomes_changes (directory : Path) (os : List Outcome) (t : FileTree) :
    let way := placesOn (t.start directory) directory.segments
    let made := (t.makeDirectories directory).1
    let filing := fileOutcomes directory os t
    GainsOnly way t made ∧
    (filing.fault = none →
      (t.makeDirectories directory).2 = none ∧
      (∀ q ∈ way, filing.tree.at? q = some .directory) ∧
      HoldsFiles directory os made filing.tree ∧
      filing.written = (nonempty os).map (Outcome.file directory) ∧
      (∀ o ∈ nonempty os, made.find? (o.path directory) ≠ some .directory) ∧
      ∀ (threshold : Threshold) (c : Content), (∀ o ∈ nonempty os, o.threshold ≠ threshold) →
        t.find? (directory.join threshold.fileName) = some (.file c) →
        filing.tree.find? (directory.join threshold.fileName) = some (.file c)) ∧
    (∀ path cause, filing.fault = some (.directory path cause) →
      path = directory ∧ (t.makeDirectories directory).2 = some cause ∧ filing.tree = made ∧
      filing.written = [] ∧ ∀ q c, filing.tree.at? q = some (.file c) ↔ t.at? q = some (.file c)) ∧
    ∀ path cause, filing.fault = some (.file path cause) →
      ∃ before o after, os = before ++ o :: after ∧ o.findings ≠ [] ∧ path = o.path directory ∧
        filing.tree.write path (resultText o.findings) = .error cause ∧
        (cause = .aDirectory ↔ made.find? path = some .directory) ∧
        (∀ q ∈ way, filing.tree.at? q = some .directory) ∧
        HoldsFiles directory before made filing.tree ∧
        filing.written = (nonempty before).map (Outcome.file directory) := by
  intro way made filing
  have hgains : GainsOnly way t made := gainsOnly_makeDirectories t directory
  refine ⟨hgains, ?_⟩
  cases hcause : (t.makeDirectories directory).2 with
  | some cause =>
    have hfiling : filing = ⟨made, [], some (.directory directory cause)⟩ :=
      fileOutcomes_of_cause hcause
    rw [hfiling]
    refine ⟨nofun, ?_, nofun⟩
    rintro path cause' ⟨⟩
    exact ⟨rfl, rfl, rfl, rfl, fun q c => hgains.at?_eq_file_iff⟩
  | none =>
    have hfiling : filing = writeFiles directory os made := fileOutcomes_of_made hcause
    have hway (os : List Outcome) :
        ∀ q ∈ way, (writeFiles directory os made).tree.at? q = some .directory := by
      intro q hq
      exact (keeps_writeFiles directory os made).1.at?_eq q (at?_makeDirectories hcause q hq)
    rw [hfiling]
    refine ⟨fun hfault => ?_, fun path cause hfault => ?_, fun path cause hfault => ?_⟩
    · refine ⟨rfl, hway os, holdsFiles_writeFiles hfault, written_writeFiles hfault,
        fun o ho => find?_ne_directory_of_writeFiles hfault ho, ?_⟩
      intro threshold c hne hfind
      refine find?_writeFiles_of_ne threshold.isEntryName_fileName hfault ?_
        (hgains.find?_eq_file hfind)
      exact fun o ho hname => hne o ho (Threshold.fileName_inj.1 hname)
    · obtain ⟨before, o, after, cause', -, -, hfile, -⟩ := writeFiles_of_fault hfault
      exact nomatch hfile
    · obtain ⟨before, o, after, cause', hsplit, ho, hfile, heq, hnone, hwrite⟩ :=
        writeFiles_of_fault hfault
      obtain ⟨rfl, rfl⟩ := FilingFault.file.inj hfile
      obtain ⟨hthere, hback⟩ := keeps_writeFiles directory before made
      have hdir := write_join_eq_error o.threshold.isEntryName_fileName hwrite
      rw [heq]
      exact ⟨before, o, after, hsplit, ho, rfl, hwrite,
        hdir.trans ⟨hback.find?_eq_directory, hthere.find?_eq_directory⟩,
        hway before, holdsFiles_writeFiles hnone, written_writeFiles hnone⟩

/-- A directory has the name of the second file.  The first one, which was there, has been replaced. -/
theorem fileOutcomes_changes_directory_in_the_way :
    let tenth : Binary64 := .ofBits 0x3FB999999999999A
    let strict : Threshold := ⟨tenth, 2, by decide, by decide, by decide⟩
    let plus : Threshold := ⟨.zero, 1, by decide, by decide, by decide⟩
    let disk := (((FileTree.empty ["home"]).put ["home", "out"] .directory).put
      ["home", "out", "terms_0.1_2.txt"] (.file (.text "old"))).put
      ["home", "out", "terms_0.0_1.txt"] .directory
    let os : List Outcome := [⟨strict, [⟨"a", ⟨tenth, tenth⟩⟩]⟩, ⟨plus, [⟨"b", ⟨.zero, .zero⟩⟩]⟩]
    let filing := fileOutcomes ⟨"out"⟩ os disk
    filing.fault = some (.file ⟨"out/terms_0.0_1.txt"⟩ .aDirectory) ∧
    filing.written = [⟨⟨"out/terms_0.1_2.txt"⟩, 1⟩] ∧
    filing.tree.find? ⟨"out/terms_0.1_2.txt"⟩ = some (.file (.text "a: 10.00% - 10.00%\n")) := by
  intro tenth strict plus disk os filing
  have hfault : filing.fault = some (.file ⟨"out/terms_0.0_1.txt"⟩ .aDirectory) := by decide +kernel
  obtain ⟨-, -, -, hfile⟩ := fileOutcomes_changes ⟨"out"⟩ os disk
  obtain ⟨before, o, after, hsplit, -, hpath, -, -, -, hholds, hwritten⟩ := hfile _ _ hfault
  have hbefore : before = [⟨strict, [⟨"a", ⟨tenth, tenth⟩⟩]⟩] := by
    match before, hsplit with
    | [], hsplit =>
      obtain ⟨rfl, -⟩ := List.cons.inj hsplit
      exact absurd hpath (by decide +kernel)
    | [first], hsplit => rw [(List.cons.inj hsplit).1]
    | _ :: _ :: before, hsplit => simp [os] at hsplit
  subst hbefore
  have hfirst := hholds.find?_eq [] _ [] rfl (by simp) (by simp [nonempty])
  refine ⟨hfault, hwritten.trans (by decide +kernel), Eq.trans ?_ (hfirst.trans ?_)⟩
  · decide +kernel
  · decide +kernel

end ShareStreaks
