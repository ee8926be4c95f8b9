import ShareStreaks.Proofs.Disk.FileTree

/-!
# Making directories

However far it gets, making the directory at a path does nothing but put directories where nothing was,
at places that the path leads through (`FileTree.gainsOnly_makeDirectories`).  When it succeeds, there is
a directory at each of these places (`FileTree.at?_makeDirectories`).

Directories are made by the components of the path, a path is followed by its segments.  The segments
have more dots, but a dot leads nowhere new, so the places are among the same ones
(`FileTree.placesOn_components_subset`).
-/

set_option autoImplicit false

namespace ShareStreaks

/-- A path without segments is a row of slashes. -/
theorem Path.isAbsolute_of_segments {p : Path} (h : p.segments = []) (hne : p.text.isEmpty = false) :
    p.isAbsolute = true := by
  rw [segments, List.map_eq_nil_iff] at h
  cases htext : p.text.toList with
  | nil => exact absurd (String.toList_eq_nil_iff.1 htext) (String.isEmpty_eq_false_iff.1 hne)
  | cons c cs =>
    obtain ⟨part, parts, hparts⟩ := List.exists_cons_of_ne_nil (splitSlashes_ne_nil cs)
    by_cases hc : c = '/'
    · simp [isAbsolute, htext, hc]
    · rw [htext, splitSlashes_cons hc hparts] at h
      simp at h

namespace FileTree

variable {t t' t'' : FileTree} {places places' : List Place} {place start q : Place} {p : Path}
  {names : List String}

/-! ## Places on the way -/

theorem placesOn_append (place : Place) (names names' : List String) :
    placesOn place (names ++ names') =
      placesOn place names ++ placesOn (names.foldl step place) names' := by
  induction names generalizing place with
  | nil => rfl
  | cons name names ih => simp [placesOn, ih]

theorem placesOn_subset_of_prefix (place : Place) {names names' : List String}
    (h : names <+: names') : placesOn place names ⊆ placesOn place names' := by
  obtain ⟨last, rfl⟩ := h
  rw [placesOn_append]
  exact List.subset_append_left _ _

/-- Steps that are dots lead through no other places. -/
theorem placesOn_filter_subset (place : Place) (names : List String) :
    placesOn place (names.filter (· != ".")) ⊆ placesOn place names := by
  induction names generalizing place with
  | nil => simp [placesOn]
  | cons name names ih =>
    rw [placesOn]
    by_cases hdot : name = "."
    · have hstay : step place name = place := if_pos hdot
      rw [List.filter_cons_of_neg (by simp [hdot]), hstay]
      exact List.subset_cons_of_subset _ (ih place)
    · rw [List.filter_cons_of_pos (by simp [hdot]), placesOn]
      exact List.cons_subset_cons _ (ih _)

theorem placesOn_components_subset (place : Place) (p : Path) :
    placesOn place p.components ⊆ placesOn place p.segments := by
  rw [Path.components]
  split
  · rename_i rest _ hsegments
    rw [hsegments, placesOn, placesOn]
    exact List.cons_subset_cons _ (placesOn_filter_subset _ rest)
  · exact placesOn_filter_subset place _

theorem walk_eq_foldl (h : t.walk place names = .ok q) : q = names.foldl step place := by
  induction names generalizing place with
  | nil => exact (Except.ok.inj h).symm
  | cons name names ih => exact ih (walk_cons_eq_ok.1 h).2.2

/-- A walk ends at the last of the places it leads through. -/
theorem mem_placesOn_of_walk (h : t.walk place names = .ok q) (hne : names ≠ []) :
    q ∈ placesOn place names := by
  induction names generalizing place with
  | nil => exact absurd rfl hne
  | cons name names ih =>
    have hwalk := (walk_cons_eq_ok.1 h).2.2
    rw [placesOn, List.mem_cons]
    by_cases hnames : names = []
    · rw [hnames] at hwalk
      exact Or.inl (walk_eq_foldl hwalk)
    · exact Or.inr (ih hwalk hnames)

/-- A walk to a directory leads through directories. -/
theorem at?_placesOn_of_walk (h : t.walk place names = .ok q)
    (hq : t.at? q = some .directory) :
    ∀ r ∈ placesOn place names, t.at? r = some .directory := by
  induction names generalizing place with
  | nil => simp [placesOn]
  | cons name names ih =>
    have hwalk := (walk_cons_eq_ok.1 h).2.2
    rw [placesOn, List.forall_mem_cons]
    refine ⟨?_, ih hwalk⟩
    cases names with
    | nil =>
      have hend : q = step place name := walk_eq_foldl hwalk
      rw [← hend]
      exact hq
    | cons name' names => exact (walk_cons_eq_ok.1 hwalk).1

/-! ## Trees that gain directories -/

/-- The second tree has directories at some of the places, where the first one had nothing, and is the
same everywhere else. -/
structure GainsOnly (places : List Place) (t t' : FileTree) : Prop where
  here_eq : t'.here = t.here
  at?_eq : ∀ q, t'.at? q = t.at? q ∨
    q ∈ places ∧ t.at? q = none ∧ t'.at? q = some .directory

namespace GainsOnly

theorem refl (places : List Place) (t : FileTree) : GainsOnly places t t :=
  ⟨rfl, fun _ => Or.inl rfl⟩

theorem trans (h : GainsOnly places t t') (h' : GainsOnly places t' t'') :
    GainsOnly places t t'' := by
  refine ⟨h'.here_eq.trans h.here_eq, fun q => ?_⟩
  rcases h'.at?_eq q with heq' | ⟨hmem, hnone, hdir⟩
  · rw [heq']
    exact h.at?_eq q
  · rcases h.at?_eq q with heq | ⟨-, -, hdir'⟩
    · exact Or.inr ⟨hmem, heq ▸ hnone, hdir⟩
    · rw [hnone] at hdir'
      exact nomatch hdir'

theorem mono (h : GainsOnly places t t') (hsub : places ⊆ places') : GainsOnly places' t t' := by
  refine ⟨h.here_eq, fun q => (h.at?_eq q).imp_right ?_⟩
  rintro ⟨hmem, hnew⟩
  exact ⟨hsub hmem, hnew⟩

theorem keeps (h : GainsOnly places t t') : Keeps t t' := by
  refine ⟨h.here_eq, fun q hq => ?_⟩
  rcases h.at?_eq q with heq | ⟨-, -, hdir⟩
  · rw [heq, hq]
  · exact hdir

/-- The files are those that there were. -/
theorem at?_eq_file_iff (h : GainsOnly places t t') {c : Content} :
    t'.at? q = some (.file c) ↔ t.at? q = some (.file c) := by
  rcases h.at?_eq q with heq | ⟨-, hnone, hdir⟩
  · rw [heq]
  · simp [hnone, hdir]

/-- A path to a file still leads to it. -/
theorem find?_eq_file (h : GainsOnly places t t') {c : Content}
    (hfind : t.find? p = some (.file c)) : t'.find? p = some (.file c) := by
  obtain ⟨q, hfollow, hq, hslash⟩ := FileTree.find?_eq_file.1 hfind
  exact FileTree.find?_eq_file.2 ⟨q, h.keeps.follow hfollow, h.at?_eq_file_iff.2 hq, hslash⟩

end GainsOnly

theorem gainsOnly_put (h : t.at? place = none) (hmem : place ∈ places) :
    GainsOnly places t (t.put place .directory) := by
  refine ⟨rfl, fun q => ?_⟩
  rw [at?_put]
  by_cases hq : q = place ∧ q ≠ []
  · rw [if_pos hq, hq.1]
    exact Or.inr ⟨hmem, h, rfl⟩
  · rw [if_neg hq]
    exact Or.inl rfl

/-! ## One directory -/

theorem makeDirectory_eq_ok (h : t.makeDirectory start names = .ok t') :
    ∃ q, t.walk start names = .ok q ∧ t.at? q = none ∧ t' = t.put q .directory := by
  rw [makeDirectory] at h
  split at h
  · exact nomatch h
  · rename_i q hwalk
    split at h
    · exact nomatch h
    · rename_i hnone
      exact ⟨q, hwalk, hnone, (Except.ok.inj h).symm⟩

theorem leadsToDirectory_iff : t.leadsToDirectory start names = true ↔
    ∃ q, t.walk start names = .ok q ∧ t.at? q = some .directory := by
  rw [leadsToDirectory]
  cases t.walk start names with
  | error fault => simp
  | ok q => simp

/-- Without a name there is nothing to make, if the root is where it starts. -/
theorem gainsOnly_ensureDirectory (t : FileTree) (hroot : names = [] → start = []) :
    GainsOnly (placesOn start names) t (t.ensureDirectory start names).1 := by
  rw [ensureDirectory]
  split
  · rename_i t' hmake
    obtain ⟨q, hwalk, hnone, rfl⟩ := makeDirectory_eq_ok hmake
    refine gainsOnly_put hnone (mem_placesOn_of_walk hwalk ?_)
    intro hnames
    have hq := walk_eq_foldl hwalk
    rw [hroot hnames, hnames, List.foldl_nil] at hq
    rw [hq] at hnone
    exact nomatch hnone
  · split <;> exact GainsOnly.refl _ t

theorem leadsToDirectory_ensureDirectory (h : t.ensureDirectory start names = (t', none)) :
    t'.leadsToDirectory start names = true := by
  rw [ensureDirectory] at h
  split at h
  · rename_i made hmake
    obtain ⟨q, hwalk, hnone, rfl⟩ := makeDirectory_eq_ok hmake
    obtain ⟨rfl, -⟩ := Prod.mk.inj h
    have hnew : t.at? q ≠ some .directory := by simp [hnone]
    refine leadsToDirectory_iff.2 ⟨q, (keeps_put hnew .directory).walk hwalk, ?_⟩
    rw [at?_put, if_pos ⟨rfl, ne_nil_of_at? hnew⟩]
  · split at h
    · rename_i hleads
      obtain ⟨rfl, -⟩ := Prod.mk.inj h
      exact hleads
    · exact nomatch (Prod.mk.inj h).2

/-! ## All directories -/

section Below

variable {parents : FileTree → FileTree × Option FileFault}

theorem gainsOnly_ensureBelow (t : FileTree) (hroot : names = [] → start = [])
    (hparents : ∀ t, GainsOnly (placesOn start names) t (parents t).1) :
    GainsOnly (placesOn start names) t (t.ensureBelow start names parents).1 := by
  have hfirst := gainsOnly_ensureDirectory t hroot
  rw [ensureBelow]
  split
  · rename_i t₁ heq
    rw [heq] at hfirst
    have habove := hfirst.trans (hparents t₁)
    split
    · rename_i t₂ heq'
      rw [heq'] at habove
      exact habove.trans (gainsOnly_ensureDirectory t₂ hroot)
    · exact habove
  · exact hfirst

theorem leadsToDirectory_ensureBelow (h : t.ensureBelow start names parents = (t', none)) :
    t'.leadsToDirectory start names = true := by
  rw [ensureBelow] at h
  split at h
  · split at h
    · exact leadsToDirectory_ensureDirectory h
    · rename_i hfailed
      exact absurd h (hfailed _)
  · exact leadsToDirectory_ensureDirectory h

end Below

/-- What is above is made first, and lies on the way as well. -/
theorem gainsOnly_ensureAll (t : FileTree) (start : Place) (names : List String) :
    GainsOnly (placesOn start names.reverse) t (ensureAll start names t).1 := by
  induction names generalizing t with
  | nil => exact GainsOnly.refl _ t
  | cons name above ih =>
    refine gainsOnly_ensureBelow t (fun hnil => absurd hnil (by simp)) fun t => (ih t).mono ?_
    rw [List.reverse_cons]
    exact placesOn_subset_of_prefix start (List.prefix_append _ _)

/-- **Making a directory only puts directories where nothing was on the way to it**, whether it
succeeds or not. -/
theorem gainsOnly_makeDirectories (t : FileTree) (p : Path) :
    GainsOnly (placesOn (t.start p) p.segments) t (t.makeDirectories p).1 := by
  rw [makeDirectories]
  cases hempty : p.text.isEmpty with
  | true => exact GainsOnly.refl _ t
  | false =>
    rw [if_neg Bool.false_ne_true]
    split
    · exact GainsOnly.refl _ t
    · refine gainsOnly_ensureBelow t ?_ ?_
      · intro hnil
        rw [start, Path.isAbsolute_of_segments hnil hempty, if_pos rfl]
      · intro t'
        have habove := gainsOnly_ensureAll t' (t.start p) p.components.reverse.tail
        refine habove.mono (List.Subset.trans ?_ (placesOn_components_subset _ p))
        rw [List.tail_reverse, List.reverse_reverse]
        exact placesOn_subset_of_prefix _ (List.dropLast_prefix p.components)

/-- **The directory that was made is there, and all directories on the way to it are.** -/
theorem at?_makeDirectories (h : (t.makeDirectories p).2 = none) :
    ∀ q ∈ placesOn (t.start p) p.segments, (t.makeDirectories p).1.at? q = some .directory := by
  cases hempty : p.text.isEmpty with
  | true =>
    have hsegments : p.segments = [] := by
      rw [Path.segments, String.isEmpty_iff.1 hempty]
      rfl
    simp [hsegments, placesOn]
  | false =>
    have hmade : ((t.makeDirectories p).1.leadsToDirectory (t.start p) p.segments) = true := by
      rw [makeDirectories, hempty, if_neg Bool.false_ne_true] at h ⊢
      cases hfault : pathFault? p with
      | some fault => simp [hfault] at h
      | none =>
        simp only [hfault] at h ⊢
        exact leadsToDirectory_ensureBelow (Prod.ext rfl h)
    obtain ⟨q, hwalk, hdir⟩ := leadsToDirectory_iff.1 hmade
    exact at?_placesOn_of_walk hwalk hdir

end FileTree
end ShareStreaks
