import ShareStreaks.Text.Blank

/-!
# Cutting blanks off

`trim` leaves the part of a text that neither begins nor ends with a blank and has nothing but blanks
around it.  There is one such part (`trim_eq_iff`), so a text may be taken apart into the three.
-/

set_option autoImplicit false

namespace ShareStreaks

/-- The text without the blanks around it. -/
structure IsTrimmed (cs core : List Char) : Prop where
  eq_append : ∃ before after, cs = before ++ core ++ after ∧ (∀ c ∈ before, isBlank c = true) ∧
    ∀ c ∈ after, isBlank c = true
  head : ∀ c ∈ core.head?, isBlank c = false
  last : ∀ c ∈ core.getLast?, isBlank c = false

theorem isBlank_eq_false_of_isDigit {c : Char} (h : c.isDigit = true) : isBlank c = false := by
  have hzero : '0'.toNat = 48 := rfl
  have hnine : '9'.toNat = 57 := rfl
  rw [Char.isDigit_iff_toNat] at h
  simp only [isBlank, Bool.or_eq_false_iff, Bool.and_eq_false_iff, decide_eq_false_iff_not,
    beq_eq_false_iff_ne]
  omega

/-! ## At the beginning -/

theorem trimStart_cons {c : Char} (h : isBlank c = false) (cs : List Char) :
    trimStart (c :: cs) = c :: cs := by
  rw [trimStart, List.dropWhile_cons_of_neg]
  rw [h]
  exact Bool.false_ne_true

theorem trimStart_of_head {cs : List Char} (h : ∀ c ∈ cs.head?, isBlank c = false) :
    trimStart cs = cs := by
  cases cs with
  | nil => rfl
  | cons c cs => exact trimStart_cons (h c rfl) cs

/-- Blanks are cut off up to the first character that is none. -/
theorem trimStart_append {before cs : List Char} (h : ∀ c ∈ before, isBlank c = true)
    (hcs : ∀ c ∈ cs.head?, isBlank c = false) : trimStart (before ++ cs) = cs := by
  rw [trimStart, List.dropWhile_append_of_pos h]
  exact trimStart_of_head hcs

theorem head?_trimStart (cs : List Char) : ∀ c ∈ (trimStart cs).head?, isBlank c = false := by
  intro c hc
  have hnot := List.head?_dropWhile_not isBlank cs
  rw [trimStart] at hc
  rw [hc] at hnot
  simpa using hnot

theorem exists_blanks_trimStart (cs : List Char) :
    ∃ before, cs = before ++ trimStart cs ∧ ∀ c ∈ before, isBlank c = true :=
  ⟨cs.takeWhile isBlank, List.takeWhile_append_dropWhile.symm,
    List.all_eq_true.1 List.all_takeWhile⟩

/-! ## At both ends -/

theorem isTrimmed_trim (cs : List Char) : IsTrimmed cs (trim cs) := by
  obtain ⟨before, hbefore, hblank⟩ := exists_blanks_trimStart cs
  obtain ⟨after, hafter, hblank'⟩ := exists_blanks_trimStart (trimStart cs).reverse
  have hcore : trimStart cs = trim cs ++ after.reverse := by
    have hreverse := congrArg List.reverse hafter
    rw [List.reverse_reverse, List.reverse_append] at hreverse
    exact hreverse
  refine ⟨⟨before, after.reverse, ?_, hblank, fun c hc => hblank' c (List.mem_reverse.1 hc)⟩, ?_, ?_⟩
  · rw [List.append_assoc, ← hcore]
    exact hbefore
  · intro c hc
    refine head?_trimStart cs c ?_
    rw [hcore, List.head?_append, hc, Option.some_or]
    rfl
  · rw [trim, List.getLast?_reverse]
    exact head?_trimStart _

/-- **There is one way to cut all blanks off.** -/
theorem trim_eq_iff {cs core : List Char} : trim cs = core ↔ IsTrimmed cs core := by
  refine ⟨fun h => h ▸ isTrimmed_trim cs, ?_⟩
  rintro ⟨⟨before, after, rfl, hbefore, hafter⟩, hhead, hlast⟩
  have hafter' : ∀ c ∈ after.reverse, isBlank c = true := fun c hc => hafter c (List.mem_reverse.1 hc)
  have hlast' : ∀ c ∈ core.reverse.head?, isBlank c = false := by
    rw [List.head?_reverse]
    exact hlast
  cases core with
  -- nothing but blanks
  | nil =>
    have hblank : ∀ c ∈ before ++ [] ++ after, isBlank c = true := by
      rw [List.append_nil]
      exact List.forall_mem_append.2 ⟨hbefore, hafter⟩
    have hstart : trimStart (before ++ [] ++ after ++ []) = [] := trimStart_append hblank (by simp)
    rw [List.append_nil] at hstart
    rw [trim, hstart]
    rfl
  | cons c core =>
    have hstart : trimStart (before ++ (c :: core) ++ after) = (c :: core) ++ after := by
      rw [List.append_assoc]
      exact trimStart_append hbefore hhead
    rw [trim, hstart, List.reverse_append, trimStart_append hafter' hlast', List.reverse_reverse]

/-- A text without blanks is left as it is. -/
theorem trim_of_forall {cs : List Char} (h : ∀ c ∈ cs, isBlank c = false) : trim cs = cs := by
  refine trim_eq_iff.2 ⟨⟨[], [], ?_, ?_, ?_⟩, ?_, ?_⟩
  · simp
  · simp
  · simp
  · exact fun c hc => h c (List.mem_of_mem_head? hc)
  · exact fun c hc => h c (List.mem_of_mem_getLast? hc)

end ShareStreaks
