import ShareStreaks.Disk.Path

/-!
# The paths of a directory's entries

A name that an entry can have (`IsEntryName`) adds one segment to the path of the directory, however
that path is written (`Path.segments_join`), and changes nothing else about it.  It is the last
component then, by which the entries of directories are told apart (`Path.endsWith_join`).
-/

set_option autoImplicit false

namespace ShareStreaks

/-- An entry of a directory can have the name: it leads one step down and nowhere else. -/
structure IsEntryName (name : String) : Prop where
  ne_empty : name ≠ ""
  ne_dot : name ≠ "."
  ne_dots : name ≠ ".."
  slash_notMem : '/' ∉ name.toList

/-! ## Splitting at slashes -/

theorem splitSlashes_ne_nil (cs : List Char) : splitSlashes cs ≠ [] := by
  cases cs with
  | nil => exact List.cons_ne_nil _ _
  | cons c cs =>
    rw [splitSlashes]
    split
    · exact List.cons_ne_nil _ _
    · split <;> exact List.cons_ne_nil _ _

theorem splitSlashes_slash (cs : List Char) :
    splitSlashes ('/' :: cs) = [] :: splitSlashes cs := by
  obtain ⟨part, parts, h⟩ := List.exists_cons_of_ne_nil (splitSlashes_ne_nil cs)
  simp only [splitSlashes, h, if_pos]

theorem splitSlashes_cons {c : Char} (hc : c ≠ '/') {cs : List Char} {part : List Char}
    {parts : List (List Char)} (h : splitSlashes cs = part :: parts) :
    splitSlashes (c :: cs) = (c :: part) :: parts := by
  simp only [splitSlashes, h, if_neg hc]

theorem splitSlashes_of_notMem {cs : List Char} (h : '/' ∉ cs) : splitSlashes cs = [cs] := by
  induction cs with
  | nil => rfl
  | cons c cs ih =>
    rw [List.mem_cons, not_or] at h
    exact splitSlashes_cons (Ne.symm h.1) (ih h.2)

/-- A slash separates the parts before it from those after it. -/
theorem splitSlashes_append_slash (cs ds : List Char) :
    splitSlashes (cs ++ '/' :: ds) = splitSlashes cs ++ splitSlashes ds := by
  induction cs with
  | nil => exact splitSlashes_slash ds
  | cons c cs ih =>
    obtain ⟨part, parts, h⟩ := List.exists_cons_of_ne_nil (splitSlashes_ne_nil cs)
    rw [List.cons_append]
    by_cases hc : c = '/'
    · rw [hc, splitSlashes_slash, splitSlashes_slash, ih, List.cons_append]
    · rw [h, List.cons_append] at ih
      rw [splitSlashes_cons hc ih, splitSlashes_cons hc h, List.cons_append]

namespace Path

/-! ## Joining -/

/-- A joined path is the name alone, or the name after a slash that was there or was set. -/
theorem join_cases (p : Path) :
    (p.text.toList = [] ∧ ∀ name, (p.join name).text.toList = name.toList) ∨
    ∃ cs, (p.text.toList = cs ++ ['/'] ∨ p.text.toList = cs ∧ cs ≠ []) ∧
      ∀ name, (p.join name).text.toList = cs ++ '/' :: name.toList := by
  by_cases hempty : p.text = ""
  · refine Or.inl ⟨String.toList_eq_nil_iff.2 hempty, fun name => ?_⟩
    rw [join, hempty]
    exact congrArg String.toList String.empty_append
  · have hfalse : p.text.isEmpty = false := String.isEmpty_eq_false_iff.2 hempty
    cases hslash : p.endsInSlash with
    | true =>
      obtain ⟨cs, hcs⟩ := List.getLast?_eq_some_iff.1 (beq_iff_eq.1 hslash)
      refine Or.inr ⟨cs, Or.inl hcs, fun name => ?_⟩
      rw [join, hfalse, hslash, Bool.or_true, if_pos rfl, String.toList_append, hcs,
        List.append_assoc]
      rfl
    | false =>
      refine Or.inr ⟨_, Or.inr ⟨rfl, mt String.toList_eq_nil_iff.1 hempty⟩, fun name => ?_⟩
      rw [join, hfalse, hslash, Bool.or_false, if_neg Bool.false_ne_true, String.toList_append,
        String.toList_append, List.append_assoc]
      rfl

theorem join_inj {p : Path} {a b : String} (h : p.join a = p.join b) : a = b := by
  have hlist : (p.join a).text.toList = (p.join b).text.toList := by rw [h]
  rcases join_cases p with ⟨-, hjoin⟩ | ⟨cs, -, hjoin⟩
  · rw [hjoin, hjoin] at hlist
    exact String.toList_inj.1 hlist
  · rw [hjoin, hjoin, List.append_right_inj] at hlist
    exact String.toList_inj.1 (List.cons.inj hlist).2

variable {name : String}

/-- **An entry of a directory is one step below it.** -/
theorem segments_join (p : Path) (h : IsEntryName name) :
    (p.join name).segments = p.segments ++ [name] := by
  have hname : (([name.toList]).filter (!·.isEmpty)).map String.ofList = [name] := by
    have hne : name.toList.isEmpty = false :=
      List.isEmpty_eq_false_iff.2 (mt String.toList_eq_nil_iff.1 h.ne_empty)
    simp only [List.filter_cons, hne, Bool.not_false, if_true, List.filter_nil, List.map_cons,
      String.ofList_toList, List.map_nil]
  simp only [segments]
  rcases join_cases p with ⟨hp, hjoin⟩ | ⟨cs, hp, hjoin⟩
  · rw [hjoin, hp, splitSlashes_of_notMem h.slash_notMem, hname]
    rfl
  · rw [hjoin, splitSlashes_append_slash, splitSlashes_of_notMem h.slash_notMem,
      List.filter_append, List.map_append, hname]
    rcases hp with hp | ⟨hp, -⟩
    · rw [hp, splitSlashes_append_slash, List.filter_append]
      simp [splitSlashes]
    · rw [hp]

theorem isAbsolute_join (p : Path) (h : IsEntryName name) :
    (p.join name).isAbsolute = p.isAbsolute := by
  rw [isAbsolute, isAbsolute]
  rcases join_cases p with ⟨hp, hjoin⟩ | ⟨cs, hp, hjoin⟩
  · have hhead : name.toList.head? ≠ some '/' :=
      fun hhead => h.slash_notMem (List.mem_of_head? hhead)
    rw [hjoin, hp, beq_false_of_ne hhead]
    rfl
  · rw [hjoin]
    rcases hp with hp | ⟨hp, hne⟩
    · rw [hp, List.head?_append, List.head?_append, List.head?_cons, List.head?_cons]
    · obtain ⟨c, cs, rfl⟩ := List.exists_cons_of_ne_nil hne
      rw [hp, List.cons_append, List.head?_cons, List.head?_cons]

/-- The name stands at the end of the path. -/
theorem suffix_join (p : Path) (name : String) : name.toList <:+ (p.join name).text.toList := by
  rcases join_cases p with ⟨-, hjoin⟩ | ⟨cs, -, hjoin⟩
  · simp [hjoin]
  · rw [hjoin]
    exact (List.suffix_cons _ _).trans (List.suffix_append _ _)

theorem text_join_ne_empty (p : Path) (h : IsEntryName name) : (p.join name).text ≠ "" := by
  intro hempty
  have hsuffix := suffix_join p name
  rw [hempty] at hsuffix
  exact h.ne_empty (String.toList_eq_nil_iff.1 (List.suffix_nil.1 hsuffix))

theorem endsInSlash_join (p : Path) (h : IsEntryName name) : (p.join name).endsInSlash = false := by
  obtain ⟨cs, hcs⟩ := suffix_join p name
  have hne : name.toList ≠ [] := mt String.toList_eq_nil_iff.1 h.ne_empty
  rw [endsInSlash, ← hcs, List.getLast?_append, List.getLast?_eq_some_getLast hne, Option.some_or]
  refine beq_false_of_ne fun hlast => h.slash_notMem ?_
  rw [← Option.some_inj.1 hlast]
  exact List.getLast_mem hne

/-- The dots that are left out of the components do not change what comes last. -/
theorem getLast?_components_join (p : Path) (h : IsEntryName name) :
    (p.join name).components.getLast? = some name := by
  have hkeep : (name != ".") = true := bne_iff_ne.2 h.ne_dot
  have hfilter (names : List String) :
      (names ++ [name]).filter (· != ".") = names.filter (· != ".") ++ [name] := by
    simp [List.filter_append, hkeep]
  rw [components, segments_join p h]
  split
  · rename_i rest _ hsegments
    cases hp : p.segments with
    | nil =>
      rw [hp, List.nil_append, List.cons.injEq] at hsegments
      exact absurd hsegments.1 h.ne_dot
    | cons first names =>
      rw [hp, List.cons_append, List.cons.injEq] at hsegments
      rw [← hsegments.2, hfilter, ← List.cons_append, List.getLast?_concat]
  · rw [hfilter, List.getLast?_concat]

theorem endsWith_join (p : Path) (h : IsEntryName name) (other : String) :
    (p.join name).endsWith other = true ↔ name = other := by
  rw [endsWith, getLast?_components_join p h, beq_iff_eq, Option.some_inj]

end Path
end ShareStreaks
