import ShareStreaks.Proofs.Decimal.Digits

/-!
# Counts in groups of three

A count is shown with a comma after every third digit from the right.  `InThrees` says how long the
groups between the commas are, and no more.  That leaves no choice where they begin: the number of
digits settles the length of the first group (`InThrees.eq_of_flatten_eq`), so a text in threes is the
one that shows its digits (`eq_grouped_iff`).

**A count can be read from its groups** (`grouped_exact`).  Without the commas it is the number itself,
and a comma never stands at an end or beside another one, since no group is empty.
-/

set_option autoImplicit false

namespace ShareStreaks

/-! ## Pieces between separators -/

section
variable {α : Type} [DecidableEq α] {a : α} {xs : List α}

theorem flatten_splitOn (a : α) (xs : List α) : (xs.splitOn a).flatten = xs.filter (· != a) := by
  induction xs with
  | nil => rfl
  | cons x xs ih =>
    obtain ⟨piece, pieces, hpieces⟩ := List.exists_cons_of_ne_nil (xs.splitOn_ne_nil a)
    rw [List.splitOn_cons_eq_if_modifyHead]
    split
    · rename_i hx
      rw [List.filter_cons_of_neg (by simpa using hx), ← ih, List.flatten_cons, List.nil_append]
    · rename_i hx
      rw [List.filter_cons_of_pos (by simpa using hx), ← ih, hpieces, List.modifyHead_cons,
        List.flatten_cons, List.flatten_cons, List.cons_append]

theorem eq_of_splitOn_eq {ys : List α} (h : xs.splitOn a = ys.splitOn a) : xs = ys := by
  have hjoined := congrArg [a].intercalate h
  rwa [List.intercalate_splitOn, List.intercalate_splitOn] at hjoined

/-- Where no piece is empty, no separator stands at an end or beside another one. -/
theorem not_infix_of_nil_notMem_splitOn (h : [] ∉ xs.splitOn a) :
    ¬[a] <+: xs ∧ ¬[a] <:+ xs ∧ ¬[a, a] <:+: xs := by
  refine ⟨?_, ?_, ?_⟩
  · rintro ⟨ys, rfl⟩
    refine h ?_
    rw [← List.nil_append ([a] ++ ys), List.singleton_append, List.splitOn_append_cons_self]
    exact List.mem_append_left _ (List.mem_singleton_self _)
  · rintro ⟨ys, rfl⟩
    refine h ?_
    rw [List.splitOn_append_cons_self]
    exact List.mem_append_right _ (List.mem_singleton_self _)
  · rintro ⟨ys, zs, rfl⟩
    refine h ?_
    rw [List.append_assoc, List.cons_append, List.splitOn_append_cons_self, List.singleton_append,
      ← List.nil_append (a :: zs), List.splitOn_append_cons_self]
    exact List.mem_append_right _ (List.mem_append_left _ (List.mem_singleton_self _))

end

/-! ## Groups -/

/-- Groups of digits: one to three digits in the first, and three in every other. -/
inductive InThrees : List (List Char) → Prop where
  | intro {first : List Char} {rest : List (List Char)} (hfirst : IsDigits first)
    (hpos : 1 ≤ first.length) (hle : first.length ≤ 3)
    (hrest : ∀ group ∈ rest, IsDigits group ∧ group.length = 3) : InThrees (first :: rest)

namespace InThrees

variable {first : List Char} {rest groups groups' : List (List Char)}

theorem length_first (h : InThrees (first :: rest)) : 1 ≤ first.length ∧ first.length ≤ 3 := by
  cases h with
  | intro _ hpos hle _ => exact ⟨hpos, hle⟩

theorem map_length (h : InThrees (first :: rest)) :
    (first :: rest).map List.length = first.length :: List.replicate rest.length 3 := by
  cases h with
  | intro _ _ _ hrest =>
    rw [List.map_cons, List.map_eq_replicate_iff.2 fun group hgroup => (hrest group hgroup).2]

theorem length_flatten (h : InThrees (first :: rest)) :
    (first :: rest).flatten.length = first.length + 3 * rest.length := by
  rw [List.length_flatten, h.map_length, List.sum_cons, List.sum_replicate_nat, Nat.mul_comm]

theorem nil_notMem (h : InThrees groups) : [] ∉ groups := by
  cases h with
  | intro _ hpos _ hrest =>
    rw [List.mem_cons]
    rintro (rfl | hmem)
    · exact absurd hpos (by decide)
    · exact absurd (hrest [] hmem).2 (by decide)

/-! One more digit in front joins the first group, or begins another one if that group is full. -/

theorem singleton {c : Char} (hc : c.isDigit = true) : InThrees [[c]] :=
  .intro (List.forall_mem_singleton.2 hc) (Nat.le_refl 1) (Nat.le_add_right 1 2)
    (List.forall_mem_nil _)

theorem cons_first {c : Char} (h : InThrees (first :: rest)) (hc : c.isDigit = true)
    (hlt : first.length < 3) : InThrees ((c :: first) :: rest) := by
  cases h with
  | intro hfirst _ _ hrest =>
    exact .intro (List.forall_mem_cons.2 ⟨hc, hfirst⟩) (Nat.le_add_left 1 _) hlt hrest

theorem cons_group {c : Char} (h : InThrees (first :: rest)) (hc : c.isDigit = true)
    (hfull : first.length = 3) : InThrees ([c] :: first :: rest) := by
  cases h with
  | intro hfirst _ _ hrest =>
    exact .intro (List.forall_mem_singleton.2 hc) (Nat.le_refl 1) (Nat.le_add_right 1 2)
      (List.forall_mem_cons.2 ⟨⟨hfirst, hfull⟩, hrest⟩)

/-- **The digits settle the groups.** -/
theorem eq_of_flatten_eq (h : InThrees groups) (h' : InThrees groups')
    (heq : groups.flatten = groups'.flatten) : groups = groups' := by
  cases groups with
  | nil => exact nomatch h
  | cons first rest =>
    cases groups' with
    | nil => exact nomatch h'
    | cons first' rest' =>
      have hlength := congrArg List.length heq
      rw [h.length_flatten, h'.length_flatten] at hlength
      have hfirst := h.length_first
      have hfirst' := h'.length_first
      have hlengths : first.length = first'.length ∧ rest.length = rest'.length := by omega
      rw [List.eq_iff_flatten_eq, h.map_length, h'.map_length, hlengths.1, hlengths.2]
      exact ⟨heq, rfl⟩

end InThrees

/-! ## Shown in groups -/

variable {cs : List Char}

theorem ne_comma_of_isDigit {c : Char} (h : c.isDigit = true) : c ≠ ',' := by
  rintro rfl
  exact absurd h (by decide)

theorem filter_groupThrees (h : IsDigits cs) : (groupThrees cs).filter (· != ',') = cs := by
  induction cs with
  | nil => rfl
  | cons c cs ih =>
    obtain ⟨hc, hcs⟩ := List.forall_mem_cons.1 h
    rw [groupThrees]
    split
    · simp [ne_comma_of_isDigit hc, ih hcs]
    · simp [ne_comma_of_isDigit hc, ih hcs]

theorem inThrees_groupThrees (h : IsDigits cs) (hne : cs ≠ []) :
    InThrees ((groupThrees cs).splitOn ',') := by
  induction cs with
  | nil => exact absurd rfl hne
  | cons c cs ih =>
    obtain ⟨hc, hcs⟩ := List.forall_mem_cons.1 h
    have hcomma := ne_comma_of_isDigit hc
    have hpiece : ',' ∉ [c] := fun hmem => hcomma (List.mem_singleton.1 hmem).symm
    by_cases hnil : cs = []
    · rw [hnil, show groupThrees [c] = [c] from rfl, List.splitOn_eq_singleton hpiece]
      exact .singleton hc
    · obtain ⟨first, rest, hsplit⟩ :=
        List.exists_cons_of_ne_nil ((groupThrees cs).splitOn_ne_nil ',')
      have hgroups := hsplit ▸ ih hcs hnil
      -- All groups but the first are full, so the number of digits tells whether the first is.
      have hlength : first.length + 3 * rest.length = cs.length := by
        rw [← hgroups.length_flatten, ← hsplit, flatten_splitOn, filter_groupThrees hcs]
      obtain ⟨hpos, hle⟩ := hgroups.length_first
      rw [groupThrees]
      split
      · rename_i hthirds
        have hfull : first.length = 3 := by
          rw [Bool.and_eq_true, decide_eq_true_iff] at hthirds
          omega
        rw [← List.singleton_append, List.splitOn_append_cons_self_of_not_mem hpiece, hsplit]
        exact hgroups.cons_group hc hfull
      · rename_i hthirds
        have hlt : first.length < 3 := by
          rw [List.isEmpty_eq_false_iff.2 hnil, Bool.not_false, Bool.and_true,
            decide_eq_true_iff] at hthirds
          omega
        rw [List.splitOn_cons_eq_if_modifyHead, if_neg (by simpa using hcomma), hsplit,
          List.modifyHead_cons]
        exact hgroups.cons_first hc hlt

/-- **A text in threes is the one that shows its digits.** -/
theorem eq_grouped_iff {n : Nat} {text : String} :
    text = grouped n ↔ String.ofList (text.toList.filter (· != ',')) = decimalText n ∧
      InThrees (text.toList.splitOn ',') := by
  have hdigits : (groupThrees (digits n)).filter (· != ',') = digits n :=
    filter_groupThrees (isDigits_digits n)
  have hthrees := inThrees_groupThrees (isDigits_digits n) (digits_ne_nil n)
  constructor
  · rintro rfl
    rw [grouped, String.toList_ofList, hdigits]
    exact ⟨rfl, hthrees⟩
  · rintro ⟨htext, hgroups⟩
    have hfilter : text.toList.filter (· != ',') = digits n := String.ofList_injective htext
    have hsplit : text.toList.splitOn ',' = (groupThrees (digits n)).splitOn ',' :=
      hgroups.eq_of_flatten_eq hthrees (by rw [flatten_splitOn, flatten_splitOn, hfilter, hdigits])
    rw [grouped, ← eq_of_splitOn_eq hsplit, String.ofList_toList]

/-- **A count is shown in groups of three.**  Without its commas the text is the number, digit by
digit.  Between the commas there are three digits, and in front of the first one to three.  No comma
stands at an end or beside another one.  So different counts are shown differently. -/
theorem grouped_exact :
    (∀ n : Nat,
      String.ofList ((grouped n).toList.filter (· != ',')) = decimalText n ∧
      InThrees ((grouped n).toList.splitOn ',') ∧
      ¬[','] <+: (grouped n).toList ∧ ¬[','] <:+ (grouped n).toList ∧
      ¬[',', ','] <:+: (grouped n).toList) ∧
    Function.Injective grouped := by
  refine ⟨fun n => ?_, fun m n h => ?_⟩
  · obtain ⟨hdigits, hthrees⟩ := eq_grouped_iff.1 (Eq.refl (grouped n))
    exact ⟨hdigits, hthrees, not_infix_of_nil_notMem_splitOn hthrees.nil_notMem⟩
  · have hm := (eq_grouped_iff.1 (Eq.refl (grouped m))).1
    have hn := (eq_grouped_iff.1 (Eq.refl (grouped n))).1
    have htext : decimalText m = decimalText n := by rw [← hm, h, hn]
    exact digits_injective (String.ofList_injective htext)

/-- A first group of one digit, and the same digits without it. -/
theorem grouped_exact_million :
    grouped 1234567 = "1,234,567" ∧
      String.ofList ("1,234,567".toList.filter (· != ',')) = decimalText 1234567 ∧
      InThrees [['1'], ['2', '3', '4'], ['5', '6', '7']] ∧
      ¬[',', ','] <:+: "1,234,567".toList ∧
      grouped 1234567 ≠ grouped 234567 := by
  have hshown : grouped 1234567 = "1,234,567" := by decide
  obtain ⟨hall, hinjective⟩ := grouped_exact
  obtain ⟨hdigits, hthrees, -, -, hdoubled⟩ := hall 1234567
  rw [hshown] at hdigits hthrees hdoubled
  exact ⟨hshown, hdigits, hthrees, hdoubled, hinjective.ne (by decide)⟩

end ShareStreaks
