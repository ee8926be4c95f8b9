import ShareStreaks.Decimal.Notation
import ShareStreaks.Proofs.Binary64.Order
import ShareStreaks.Proofs.Decimal.Digits
import ShareStreaks.Proofs.Decimal.Rounding

/-!
# Reading back what was written

A finite number, written in any `NumberStyle`, is read back with all its bits
(`Binary64.readBinary64_written`).  So a text tells which number it was written for.

A number is written in two steps, and read back in two steps.

* Its shortest decimal becomes a `Significand`, the digits without the zeros at the end.
  `Significand.decimal` is the number that a significand stands for, and it rounds to the same
  magnitude as the decimal did (`Significand.nearestMagnitude_ofDecimal`).
* The significand is laid out with a point or an exponent.  `readDecimal` finds its digits again,
  perhaps with zeros added at the end (`Significand.readDecimal_written`).
-/

set_option autoImplicit false

namespace ShareStreaks

/-! ## Characters -/

/-- Nothing but the characters that finite numbers are written with. -/
def IsNumeral (cs : List Char) : Prop := ∀ c ∈ cs, c.isDigit = true ∨ c ∈ ['+', '-', '.', 'e']

theorem IsDigits.isNumeral {cs : List Char} (h : IsDigits cs) : IsNumeral cs :=
  fun c hc => Or.inl (h c hc)

theorem isNumeral_of_subset {cs : List Char} (h : cs ⊆ ['+', '-', '.', 'e']) : IsNumeral cs :=
  fun _ hc => Or.inr (h hc)

theorem IsNumeral.append {cs ds : List Char} (h : IsNumeral cs) (h' : IsNumeral ds) :
    IsNumeral (cs ++ ds) :=
  List.forall_mem_append.2 ⟨h, h'⟩

/-! ## Significands -/

namespace Significand

/-- The number that the digits and the exponent stand for. -/
def decimal (s : Significand) : Decimal := ⟨ofDigits s.digits, s.exponent + 1 - s.digits.length⟩

/-- There are digits, and nothing else. -/
def IsProper (s : Significand) : Prop := s.digits ≠ [] ∧ IsDigits s.digits

/-- The zeros at the end of a list of digits. -/
theorem exists_eq_append_zeros (ds : List Char) :
    ∃ n, ds = (ds.reverse.dropWhile (· == '0')).reverse ++ List.replicate n '0' := by
  obtain ⟨n, hn⟩ : ∃ n, ds.reverse.takeWhile (· == '0') = List.replicate n '0' := by
    refine ⟨_, List.eq_replicate_of_mem fun c hc => ?_⟩
    exact beq_iff_eq.1 (List.all_eq_true.1 List.all_takeWhile c hc)
  have hsplit : List.replicate n '0' ++ ds.reverse.dropWhile (· == '0') = ds.reverse := by
    rw [← hn, List.takeWhile_append_dropWhile]
  have hreverse := congrArg List.reverse hsplit
  rw [List.reverse_append, List.reverse_replicate, List.reverse_reverse] at hreverse
  exact ⟨n, hreverse.symm⟩

/-- What is kept of the digits of a decimal, and how many zeros are not. -/
theorem ofDecimal_cases (d : Decimal) :
    (ofDecimal d).digits = ['0'] ∧ d.coefficient = 0 ∨
    ∃ kept n, kept ≠ [] ∧ IsDigits kept ∧ d.coefficient = ofDigits kept * 10 ^ n ∧
      ofDecimal d = ⟨kept, d.exponent + (kept.length + n : Nat) - 1⟩ := by
  obtain ⟨n, hn⟩ := exists_eq_append_zeros (ShareStreaks.digits d.coefficient)
  have hvalue := congrArg ofDigits hn
  rw [ofDigits_digits, ofDigits_append_zeros] at hvalue
  have hlength := congrArg List.length hn
  rw [List.length_append, List.length_replicate] at hlength
  simp only [ofDecimal]
  rw [hlength]
  generalize ((ShareStreaks.digits d.coefficient).reverse.dropWhile (· == '0')).reverse = kept at *
  cases kept with
  | nil => exact Or.inl ⟨rfl, by rw [hvalue]; exact Nat.zero_mul _⟩
  | cons c kept =>
    refine Or.inr ⟨c :: kept, n, List.cons_ne_nil _ _, fun a ha => ?_, hvalue, rfl⟩
    refine isDigits_digits d.coefficient a ?_
    rw [hn]
    exact List.mem_append_left _ ha

theorem ofDecimal_isProper (d : Decimal) : (ofDecimal d).IsProper := by
  rcases ofDecimal_cases d with ⟨hzero, -⟩ | ⟨kept, n, hne, hdigits, -, he⟩
  · rw [IsProper, hzero]
    exact ⟨List.cons_ne_nil _ _, isDigits_replicate_zero 1⟩
  · rw [he]
    exact ⟨hne, hdigits⟩

/-- **Leaving zeros at the end out changes nothing.** -/
theorem nearestMagnitude_ofDecimal (d : Decimal) :
    (ofDecimal d).decimal.nearestMagnitude = d.nearestMagnitude := by
  rcases ofDecimal_cases d with ⟨hzero, hc⟩ | ⟨kept, n, hne, -, hc, he⟩
  · have hvalue : (ofDecimal d).decimal.coefficient = 0 := by
      rw [decimal, hzero]
      exact ofDigits_replicate_zero 1
    rw [Decimal.nearestMagnitude, if_pos hvalue, Decimal.nearestMagnitude, if_pos hc]
  · obtain ⟨c, e⟩ := d
    simp only at hc he
    have hexp : e + (kept.length + n : Nat) - 1 + 1 - kept.length = e + n := by omega
    rw [he, decimal, hexp, hc, Decimal.nearestMagnitude_shift]

/-! ## Layouts -/

/-- A point in front of the digits, and zeros in between. -/
theorem readDecimal_zeros {ds : List Char} (hds : IsDigits ds) (zeros : Nat) :
    readDecimal ('0' :: '.' :: (List.replicate zeros '0' ++ ds)) =
      some ⟨ofDigits ds, 0 - (zeros + ds.length : Nat)⟩ := by
  have h := readDecimal_fraction (isDigits_replicate_zero 1) (List.cons_ne_nil _ _)
    ((isDigits_replicate_zero zeros).append hds)
  rw [ofDigits_zeros_append, ofDigits_zeros_append, List.length_append,
    List.length_replicate] at h
  exact h

/-- A point between two digits. -/
theorem readDecimal_take_drop {ds : List Char} (hds : IsDigits ds) {width : Nat} (hwidth : 0 < width)
    (hlt : width < ds.length) :
    readDecimal (ds.take width ++ '.' :: ds.drop width) =
      some ⟨ofDigits ds, 0 - (ds.length - width : Nat)⟩ := by
  have hne : ds.take width ≠ [] := by
    rw [ne_eq, List.take_eq_nil_iff]
    rintro (rfl | rfl)
    · exact Nat.lt_irrefl _ hwidth
    · exact Nat.not_lt_zero _ hlt
  have h := readDecimal_fraction (hds.take width) hne (hds.drop width)
  rw [List.take_append_drop, List.length_drop] at h
  exact h

/-- A point after the digits, with zeros up to it and one behind it. -/
theorem readDecimal_filled {ds : List Char} (hds : IsDigits ds) (hne : ds ≠ []) (zeros : Nat) :
    readDecimal (ds ++ List.replicate zeros '0' ++ ['.', '0']) =
      some ⟨ofDigits ds * 10 ^ (zeros + 1), 0 - (1 : Nat)⟩ := by
  have h := readDecimal_fraction (hds.append (isDigits_replicate_zero zeros))
    (List.append_ne_nil_of_left_ne_nil hne _) (isDigits_replicate_zero 1)
  have hvalue : ofDigits (ds ++ List.replicate zeros '0' ++ List.replicate 1 '0')
      = ofDigits ds * 10 ^ (zeros + 1) := by
    rw [List.append_assoc, List.replicate_append_replicate, ofDigits_append_zeros]
  rw [hvalue, List.length_replicate] at h
  exact h

/-- The digits around a point are the same number, perhaps with zeros added at the end. -/
theorem readDecimal_positional {s : Significand} (h : s.IsProper) :
    ∃ d, readDecimal s.positional = some d ∧ d.nearestMagnitude = s.decimal.nearestMagnitude := by
  obtain ⟨ds, e⟩ := s
  obtain ⟨hne, hds⟩ := h
  simp only at hne hds
  simp only [positional, decimal]
  have hexp {e' : Int} (he : e' = e + 1 - ds.length) :
      Decimal.nearestMagnitude ⟨ofDigits ds, e'⟩
        = Decimal.nearestMagnitude ⟨ofDigits ds, e + 1 - ds.length⟩ := by
    rw [he]
  split
  · rename_i hneg
    exact ⟨_, readDecimal_zeros hds _, hexp (by omega)⟩
  · rename_i hneg
    rcases Nat.lt_or_ge (e.toNat + 1) ds.length with hlt | hge
    · have hdrop : (ds.drop (e.toNat + 1)).isEmpty = false := by
        rw [List.isEmpty_eq_false_iff, ne_eq, List.drop_eq_nil_iff]
        omega
      rw [hdrop, show e.toNat + 1 - ds.length = 0 by omega, List.replicate_zero, List.append_nil]
      exact ⟨_, readDecimal_take_drop hds (Nat.succ_pos _) hlt, hexp (by omega)⟩
    · rw [List.drop_eq_nil_of_le hge, List.take_of_length_le hge]
      refine ⟨_, readDecimal_filled hds hne _, ?_⟩
      rw [Decimal.nearestMagnitude_shift]
      exact hexp (by omega)

/-- The digits with an exponent are the decimal as it is. -/
theorem readDecimal_scientific {s : Significand} (h : s.IsProper) (style : NumberStyle) :
    readDecimal (s.scientific style) = some s.decimal := by
  obtain ⟨ds, e⟩ := s
  obtain ⟨hne, hds⟩ := h
  simp only at hne hds
  have hexp := readExponent_sign (isDigits_padded style.exponentDigits e.natAbs)
    (padded_ne_nil _ _) e (ofDigits_padded _ _) style.plusSign
  simp only [scientific, decimal]
  match ds, hne, hds with
  | [c], hne, hds =>
    refine (readDecimal_no_point hds hne ('e' :: _) rfl (by simp)).trans ?_
    rw [hexp, Option.map_some, List.length_singleton]
    refine congrArg (fun x => some (Decimal.mk (ofDigits [c]) x)) ?_
    omega
  | c :: d :: ds, _, hds =>
    refine (readDecimal_point (hds.take 1) (hds.drop 1) (.inl (List.cons_ne_nil _ _)) _ rfl).trans ?_
    rw [hexp, Option.map_some]
    refine congrArg (fun x => some (Decimal.mk (ofDigits (c :: d :: ds)) x)) ?_
    simp only [List.length_cons, List.drop_succ_cons, List.drop_zero]
    omega

/-- **What is written is read back as the same magnitude.** -/
theorem readDecimal_written {s : Significand} (h : s.IsProper) (style : NumberStyle) :
    ∃ d, readDecimal (s.written style) = some d ∧
      d.nearestMagnitude = s.decimal.nearestMagnitude := by
  rw [written]
  split
  · exact readDecimal_positional h
  · exact ⟨_, readDecimal_scientific h style, rfl⟩

theorem isNumeral_positional {s : Significand} (h : s.IsProper) : IsNumeral s.positional := by
  have hzero := (isDigits_replicate_zero 1).isNumeral
  have hpoint : IsNumeral ['.'] := isNumeral_of_subset (by decide)
  simp only [positional]
  split
  · exact hzero.append (hpoint.append ((isDigits_replicate_zero _).append h.2).isNumeral)
  · have hfraction (fraction : List Char) (h : IsDigits fraction) :
        IsNumeral (if fraction.isEmpty then ['0'] else fraction) := by
      split
      · exact hzero
      · exact h.isNumeral
    exact ((h.2.take _).append (isDigits_replicate_zero _)).isNumeral.append
      (hpoint.append (hfraction _ (h.2.drop _)))

theorem isNumeral_scientific {s : Significand} (h : s.IsProper) (style : NumberStyle) :
    IsNumeral (s.scientific style) := by
  have hmark : IsNumeral ['e'] := isNumeral_of_subset (by decide)
  simp only [scientific]
  refine IsNumeral.append ?_ (hmark.append (IsNumeral.append ?_ (isDigits_padded _ _).isNumeral))
  · split
    · rename_i c d ds hds
      have hpoint : IsNumeral ['.'] := isNumeral_of_subset (by decide)
      have hdigits : IsDigits (c :: d :: ds) := hds ▸ h.2
      exact (hdigits.take 1).isNumeral.append (hpoint.append (hdigits.drop 1).isNumeral)
    · exact h.2.isNumeral
  · split
    · exact isNumeral_of_subset (by decide)
    · split
      · exact isNumeral_of_subset (by decide)
      · exact isNumeral_of_subset (List.nil_subset _)

theorem isNumeral_written {s : Significand} (h : s.IsProper) (style : NumberStyle) :
    IsNumeral (s.written style) := by
  rw [written]
  split
  · exact isNumeral_positional h
  · exact isNumeral_scientific h style

end Significand

/-! ## Numbers -/

/-- What is read as a decimal has no sign. -/
theorem splitSign_of_readDecimal {cs : List Char} {d : Decimal} (h : readDecimal cs = some d) :
    splitSign cs = (false, cs) := by
  rw [splitSign]
  · rintro cs rfl
    have hnone : readDecimal ('-' :: cs) = none := rfl
    rw [hnone] at h
    exact absurd h (by simp)
  · rintro cs rfl
    have hnone : readDecimal ('+' :: cs) = none := rfl
    rw [hnone] at h
    exact absurd h (by simp)

theorem ne_nil_of_readDecimal {cs : List Char} {d : Decimal} (h : readDecimal cs = some d) :
    cs ≠ [] := by
  rintro rfl
  have hnone : readDecimal [] = none := rfl
  rw [hnone] at h
  exact absurd h (by simp)

/-- A sign in front is the sign of the number. -/
theorem readBinary64_append {sign cs : List Char} {negative : Bool} (hsign : IsSign sign negative)
    (hcs : splitSign cs = (false, cs)) (hne : cs ≠ []) :
    readBinary64 (sign ++ cs) =
      match readDecimal cs with
      | some d => .ok (d.nearest negative)
      | none =>
        match readSpecial negative (cs.map Char.toLower) with
        | some x => .ok x
        | none => .error .malformed := by
  have hempty : (sign ++ cs).isEmpty = false :=
    List.isEmpty_eq_false_iff.2 (List.append_ne_nil_of_right_ne_nil _ hne)
  rw [readBinary64, hempty, splitSign_append hsign hcs]
  exact if_neg Bool.false_ne_true

theorem readBinary64_sign {sign cs : List Char} {negative : Bool} {d : Decimal}
    (hsign : IsSign sign negative) (h : readDecimal cs = some d) :
    readBinary64 (sign ++ cs) = .ok (d.nearest negative) := by
  rw [readBinary64_append hsign (splitSign_of_readDecimal h) (ne_nil_of_readDecimal h), h]

theorem Decimal.nearest_eq {d : Decimal} {x : Binary64} (h : d.nearestMagnitude = x.magnitude) :
    d.nearest x.negative = x := by
  obtain ⟨negative, magnitude, hlt⟩ := x
  rw [nearest, Binary64.mk.injEq]
  exact ⟨rfl, h⟩

namespace Binary64

variable {x : Binary64}

theorem significand_isProper (tie : Tie) (x : Binary64) : (x.significand tie).IsProper := by
  rw [significand]
  split
  · exact ⟨List.cons_ne_nil _ _, isDigits_replicate_zero 1⟩
  · exact Significand.ofDecimal_isProper _

theorem nearestMagnitude_significand (h : x.isFinite = true) (tie : Tie) :
    (x.significand tie).decimal.nearestMagnitude = x.magnitude := by
  rw [significand]
  split
  · rename_i hzero
    rw [of_decide_eq_true hzero, Significand.decimal, Decimal.nearestMagnitude]
    exact if_pos (ofDigits_replicate_zero 1)
  · rw [Significand.nearestMagnitude_ofDecimal]
    exact Decimal.nearestMagnitude_shortest tie (of_decide_eq_true h)

theorem written_of_isFinite (h : x.isFinite = true) (style : NumberStyle) :
    x.written style =
      (if x.negative then ['-'] else []) ++ (x.significand style.tie).written style := by
  rw [written, isNaN_of_isFinite h, if_neg Bool.false_ne_true, if_pos h]

/-- **A finite number is read back from its text.** -/
theorem readBinary64_written (h : x.isFinite = true) (style : NumberStyle) :
    readBinary64 (x.written style) = .ok x := by
  obtain ⟨d, hread, hd⟩ := Significand.readDecimal_written (significand_isProper style.tie x) style
  rw [nearestMagnitude_significand h] at hd
  rw [written_of_isFinite h, readBinary64_sign (isSign_ite x.negative) hread, Decimal.nearest_eq hd]

theorem isNumeral_written (h : x.isFinite = true) (style : NumberStyle) :
    IsNumeral (x.written style) := by
  rw [written_of_isFinite h]
  refine IsNumeral.append ?_ (Significand.isNumeral_written (significand_isProper _ _) _)
  split
  · exact isNumeral_of_subset (by decide)
  · exact isNumeral_of_subset (List.nil_subset _)

end Binary64
end ShareStreaks
