import ShareStreaks.Disk.FileTree
import ShareStreaks.Proofs.Disk.Path

/-!
# Writing files

What a successful `FileTree.write` does (`FileTree.write_eq_ok`): the text is at the place that the
path leads to, which was no directory, and everything else is as it was.  Following a path asks for
directories only, so every path still leads where it led (`FileTree.Keeps`).  In particular the file
at the path is the one that was written (`FileTree.find?_of_write`), and a file of another name
stays what it was (`FileTree.find?_of_write_ne`).
-/

set_option autoImplicit false

namespace ShareStreaks
namespace FileTree

variable {t t' t'' : FileTree} {place q : Place} {p : Path} {text : String}

/-! ## Places -/

theorem lookup_entry (p : Place) (node : Node) (entries : List (Place × Node)) (q : Place) :
    ((p, node) :: entries).lookup q = if q = p then some node else entries.lookup q := by
  rw [List.lookup_cons]
  by_cases hq : q = p
  · rw [if_pos hq, beq_iff_eq.2 hq]
  · rw [if_neg hq, beq_false_of_ne hq]

theorem lookup_putEntry (place : Place) (node : Node) (entries : List (Place × Node)) (q : Place) :
    (putEntry place node entries).lookup q =
      if q = place then some node else entries.lookup q := by
  induction entries with
  | nil => exact lookup_entry place node [] q
  | cons e entries ih =>
    obtain ⟨p, n⟩ := e
    rw [putEntry]
    by_cases hp : p = place
    · rw [if_pos hp, lookup_entry, lookup_entry, hp]
      by_cases hq : q = place
      · rw [if_pos hq, if_pos hq]
      · rw [if_neg hq, if_neg hq, if_neg hq]
    · rw [if_neg hp, lookup_entry, lookup_entry, ih]
      by_cases hq : q = p
      · rw [if_pos hq, if_neg (hq ▸ hp), if_pos hq]
      · rw [if_neg hq, if_neg hq]

theorem lookup_filter_ne (place : Place) (entries : List (Place × Node)) (q : Place) :
    (entries.filter fun e => e.1 != place).lookup q = if q = place then none else entries.lookup q := by
  induction entries with
  | nil => simp
  | cons e entries ih =>
    obtain ⟨p, n⟩ := e
    by_cases hp : p = place
    · rw [List.filter_cons_of_neg (by simp [hp]), ih, lookup_entry, hp]
      by_cases hq : q = place
      · rw [if_pos hq, if_pos hq]
      · rw [if_neg hq, if_neg hq, if_neg hq]
    · rw [List.filter_cons_of_pos (by simp [hp]), lookup_entry, lookup_entry, ih]
      by_cases hq : q = p
      · rw [if_pos hq, if_neg (hq ▸ hp), if_pos hq]
      · rw [if_neg hq, if_neg hq]

/-- The root is a directory and stays one, whatever becomes of the entries. -/
theorem at?_of_lookup {node : Option Node}
    (h : t'.entries.lookup q = if q = place then node else t.entries.lookup q) :
    t'.at? q = if q = place ∧ q ≠ [] then node else t.at? q := by
  rw [at?, at?]
  by_cases hroot : q = []
  · rw [if_pos hroot, if_pos hroot, if_neg (fun h => h.2 hroot)]
  · rw [if_neg hroot, if_neg hroot, h]
    by_cases hq : q = place
    · rw [if_pos hq, if_pos ⟨hq, hroot⟩]
    · rw [if_neg hq, if_neg (fun h => hq h.1)]

/-- Any place but the root gets what is put there. -/
theorem at?_put (t : FileTree) (place : Place) (node : Node) (q : Place) :
    (t.put place node).at? q = if q = place ∧ q ≠ [] then some node else t.at? q :=
  at?_of_lookup (lookup_putEntry place node t.entries q)

/-- Nothing is left at a place but the root. -/
theorem at?_remove (t : FileTree) (place q : Place) :
    (t.remove place).at? q = if q = place ∧ q ≠ [] then none else t.at? q :=
  at?_of_lookup (lookup_filter_ne place t.entries q)

/-! ## Paths -/

theorem walk_cons_eq_ok {name : String} {names : List String} :
    t.walk place (name :: names) = .ok q ↔
      t.at? place = some .directory ∧ name.utf8ByteSize ≤ 255 ∧
        t.walk (step place name) names = .ok q := by
  rw [walk]
  split
  · rename_i h
    rw [h]
    simp
  · rename_i h
    rw [h]
    simp
  · rename_i h
    rw [h]
    split
    · rename_i hlong
      simp [Nat.not_le.2 hlong]
    · rename_i hshort
      simp [Nat.not_lt.1 hshort]

/-- The last step of a walk. -/
theorem walk_append_singleton {name : String} {names : List String}
    (h : t.walk place (names ++ [name]) = .ok q) :
    ∃ d, t.walk place names = .ok d ∧ t.at? d = some .directory ∧ q = step d name := by
  induction names generalizing place with
  | nil =>
    obtain ⟨hdir, -, hwalk⟩ := walk_cons_eq_ok.1 h
    exact ⟨place, rfl, hdir, (Except.ok.inj hwalk).symm⟩
  | cons first names ih =>
    obtain ⟨hdir, hlength, hwalk⟩ := walk_cons_eq_ok.1 h
    obtain ⟨d, hd, hq⟩ := ih hwalk
    exact ⟨d, walk_cons_eq_ok.2 ⟨hdir, hlength, hd⟩, hq⟩

/-- All directories are still there. -/
structure Keeps (t t' : FileTree) : Prop where
  here_eq : t'.here = t.here
  at?_eq : ∀ q, t.at? q = some .directory → t'.at? q = some .directory

namespace Keeps

theorem refl (t : FileTree) : Keeps t t := ⟨rfl, fun _ hq => hq⟩

theorem trans (h : Keeps t t') (h' : Keeps t' t'') : Keeps t t'' :=
  ⟨h'.here_eq.trans h.here_eq, fun q hq => h'.at?_eq q (h.at?_eq q hq)⟩

theorem walk (h : Keeps t t') {names : List String} (hwalk : t.walk place names = .ok q) :
    t'.walk place names = .ok q := by
  induction names generalizing place with
  | nil => exact hwalk
  | cons name names ih =>
    obtain ⟨hdir, hlength, hwalk⟩ := walk_cons_eq_ok.1 hwalk
    exact walk_cons_eq_ok.2 ⟨h.at?_eq _ hdir, hlength, ih hwalk⟩

/-- Paths still lead where they led. -/
theorem follow (h : Keeps t t') (hfollow : t.follow p = .ok q) : t'.follow p = .ok q := by
  rw [FileTree.follow] at hfollow ⊢
  split at hfollow
  · exact absurd hfollow (by simp)
  · rw [start, h.here_eq]
    exact h.walk hfollow

end Keeps

theorem follow_eq_ok (h : t.follow p = .ok q) : t.walk (t.start p) p.segments = .ok q := by
  rw [follow] at h
  split at h
  · exact absurd h (by simp)
  · exact h

/-- An entry of a directory is at a place of its own name, right below the directory's. -/
theorem follow_join {directory : Path} {name : String} (hname : IsEntryName name)
    (h : t.follow (directory.join name) = .ok q) :
    ∃ d, t.walk (t.start directory) directory.segments = .ok d ∧ q = d ++ [name] := by
  have hwalk := follow_eq_ok h
  rw [Path.segments_join directory hname, start, Path.isAbsolute_join directory hname] at hwalk
  obtain ⟨d, hd, -, hq⟩ := walk_append_singleton hwalk
  refine ⟨d, hd, hq.trans ?_⟩
  rw [step, if_neg hname.ne_dot, if_neg hname.ne_dots]

/-- A path that cannot be followed leads to no directory. -/
theorem walk_ne_aDirectory (names : List String) : t.walk place names ≠ .error .aDirectory := by
  induction names generalizing place with
  | nil => simp [walk]
  | cons name names ih =>
    rw [walk]
    split
    · simp
    · simp
    · split
      · simp
      · exact ih

theorem follow_ne_aDirectory (t : FileTree) (p : Path) : t.follow p ≠ .error .aDirectory := by
  rw [follow]
  split
  · rename_i fault hfault
    rw [pathFault?] at hfault
    rintro ⟨⟩
    split at hfault
    · exact nomatch hfault
    · split at hfault <;> exact nomatch hfault
  · exact walk_ne_aDirectory p.segments

/-! ## Files -/

theorem find?_eq_file {c : Content} :
    t.find? p = some (.file c) ↔
      ∃ q, t.follow p = .ok q ∧ t.at? q = some (.file c) ∧ p.endsInSlash = false := by
  rw [find?]
  cases hfollow : t.follow p with
  | error fault => simp
  | ok q =>
    simp only [Except.ok.injEq, exists_eq_left']
    split
    · rename_i c' hc'
      rw [hc']
      cases p.endsInSlash with
      | true => simp
      | false => simp
    · rename_i hno
      constructor
      · intro h
        split at h
        · exact absurd h (by simp)
        · exact absurd h (hno c)
      · rintro ⟨h, -⟩
        exact absurd h (hno c)

theorem find?_eq_directory :
    t.find? p = some .directory ↔
      ∃ q, t.follow p = .ok q ∧ t.at? q = some .directory ∧ p.text.isEmpty = false := by
  rw [find?]
  cases hfollow : t.follow p with
  | error fault => simp
  | ok q =>
    simp only [Except.ok.injEq, exists_eq_left']
    split
    · rename_i c hc
      rw [hc]
      cases p.endsInSlash <;> simp
    · cases p.text.isEmpty <;> simp

theorem Keeps.find?_eq_directory (h : Keeps t t') (hfind : t.find? p = some .directory) :
    t'.find? p = some .directory := by
  obtain ⟨q, hfollow, hdir, htext⟩ := FileTree.find?_eq_directory.1 hfind
  exact FileTree.find?_eq_directory.2 ⟨q, h.follow hfollow, h.at?_eq q hdir, htext⟩

/-- If the same directories are there, a path leads to the same thing unless something changed at the
very place. -/
theorem find?_congr (h : Keeps t t') (h' : Keeps t' t)
    (hat : ∀ q, t.follow p = .ok q → t'.at? q = t.at? q) : t'.find? p = t.find? p := by
  rw [find?, find?]
  cases hfollow : t.follow p with
  | ok q => simp only [h.follow hfollow, hat q hfollow]
  | error fault =>
    cases hfollow' : t'.follow p with
    | error fault' => rfl
    | ok q =>
      rw [h'.follow hfollow'] at hfollow
      exact nomatch hfollow

theorem write_eq_ok (h : t.write p text = .ok t') :
    ∃ q, t.follow p = .ok q ∧ t.at? q ≠ some .directory ∧ p.endsInSlash = false ∧
      t' = t.put q (.file (.text text)) := by
  rw [write] at h
  split at h
  · exact absurd h (by simp)
  · rename_i q hq
    split at h
    · exact absurd h (by simp)
    · rename_i hno
      rw [Bool.or_eq_true, not_or, Bool.not_eq_true, Bool.not_eq_true] at hno
      exact ⟨q, hq, of_decide_eq_false hno.1, hno.2, (Except.ok.inj h).symm⟩

/-- A place that is no directory is not the root. -/
theorem ne_nil_of_at? (h : t.at? q ≠ some .directory) : q ≠ [] := by
  rintro rfl
  exact h rfl

theorem keeps_put (h : t.at? place ≠ some .directory) (node : Node) :
    Keeps t (t.put place node) := by
  refine ⟨rfl, fun q hq => ?_⟩
  rw [at?_put, if_neg, hq]
  rintro ⟨rfl, -⟩
  exact h hq

/-- A file that is put somewhere is no new directory. -/
theorem keeps_of_put_file (t : FileTree) (place : Place) (c : Content) :
    Keeps (t.put place (.file c)) t := by
  refine ⟨rfl, fun q hq => ?_⟩
  rw [at?_put] at hq
  split at hq
  · exact nomatch hq
  · exact hq

theorem keeps_write (h : t.write p text = .ok t') : Keeps t t' := by
  obtain ⟨q, -, hdir, -, rfl⟩ := write_eq_ok h
  exact keeps_put hdir _

/-- A file at an entry of a directory cannot be written over a directory, and over nothing else for
this reason. -/
theorem write_join_eq_error {directory : Path} {name : String} {cause : FileFault}
    (hname : IsEntryName name) (h : t.write (directory.join name) text = .error cause) :
    cause = .aDirectory ↔ t.find? (directory.join name) = some .directory := by
  rw [write] at h
  rw [find?_eq_directory]
  cases hfollow : t.follow (directory.join name) with
  | error fault =>
    rw [hfollow] at h
    obtain rfl := Except.error.inj h
    have hne : fault ≠ .aDirectory := fun hfault => follow_ne_aDirectory t _ (hfault ▸ hfollow)
    simp [hne]
  | ok q =>
    simp only [hfollow, directory.endsInSlash_join hname, Bool.or_false, decide_eq_true_eq] at h
    split at h
    · rename_i hdir
      obtain rfl := Except.error.inj h
      simp [hdir, directory.text_join_ne_empty hname]
    · exact nomatch h

/-- **The file at the path is the one that was written.** -/
theorem find?_of_write (h : t.write p text = .ok t') :
    t'.find? p = some (.file (.text text)) := by
  have hkeeps := keeps_write h
  obtain ⟨q, hfollow, hdir, hslash, rfl⟩ := write_eq_ok h
  refine find?_eq_file.2 ⟨q, hkeeps.follow hfollow, ?_, hslash⟩
  rw [at?_put, if_pos ⟨rfl, ne_nil_of_at? hdir⟩]

/-- Writing to an entry of a directory changes nothing under any other name. -/
theorem at?_of_write_join {directory : Path} {name : String} (hname : IsEntryName name)
    (h : t.write (directory.join name) text = .ok t') (hq : q.getLast? ≠ some name) :
    t'.at? q = t.at? q := by
  obtain ⟨place, hfollow, -, -, rfl⟩ := write_eq_ok h
  obtain ⟨d, -, rfl⟩ := follow_join hname hfollow
  rw [at?_put, if_neg]
  rintro ⟨rfl, -⟩
  exact hq List.getLast?_concat

/-- **A file stays what it was when another entry of its directory is written.** -/
theorem find?_of_write_ne {directory : Path} {a b : String} {c : Content} (ha : IsEntryName a)
    (hb : IsEntryName b) (hne : a ≠ b) (hfind : t.find? (directory.join a) = some (.file c))
    (h : t.write (directory.join b) text = .ok t') :
    t'.find? (directory.join a) = some (.file c) := by
  obtain ⟨q, hfollow, hq, hslash⟩ := find?_eq_file.1 hfind
  refine find?_eq_file.2 ⟨q, (keeps_write h).follow hfollow, ?_, hslash⟩
  obtain ⟨d, -, rfl⟩ := follow_join ha hfollow
  rw [at?_of_write_join hb h, hq]
  rw [List.getLast?_concat]
  exact fun hsome => hne (Option.some_inj.1 hsome)

end FileTree
end ShareStreaks
