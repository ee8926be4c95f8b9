import ShareStreaks.Proofs.Decimal.Shortest

/-!
# How a number is laid out

Written out (`IsPositional`), a number has digits on both sides of a point, and no zero in front but
the one before the point.  With an exponent (`Significand.IsScientificIn`), it has one digit, then the
others behind a point if there are any, and the exponent with its sign.  Which of the two it is
depends on the exponent of the number alone.
-/

set_option autoImplicit false

namespace ShareStreaks

/-- Digits on both sides of a point, those before it without needless zeros in front. -/
def IsPositional (cs : List Char) : Prop :=
  ∃ c whole fraction, cs = c :: (whole ++ '.' :: fraction) ∧ IsDigits (c :: whole) ∧
    (c = '0' → whole = []) ∧ IsDigits fraction ∧ fraction ≠ []

namespace Significand

/-- Digits without a zero in front, unless they stand for zero. -/
structure IsNormal (s : Significand) : Prop where
  isProper : s.IsProper
  eq_zero : ∀ cs, s.digits = '0' :: cs → cs = [] ∧ s.exponent = 0

theorem IsShortest.isNormal {s : Significand} {m : Nat} (h : s.IsShortest m) : s.IsNormal := by
  obtain ⟨c, cs, hcs, hc⟩ := h.eq_cons
  refine ⟨⟨?_, h.isDigits⟩, fun cs' hcs' => ?_⟩
  · rw [hcs]
    exact List.cons_ne_nil _ _
  · rw [hcs, List.cons.injEq] at hcs'
    exact absurd hcs'.1 hc

/-- The first digit, the others behind a point, and the exponent with its sign and at least so many
digits. -/
def IsScientificIn (s : Significand) (width : Nat) (cs : List Char) : Prop :=
  ∃ c ds es, s.digits = c :: ds ∧
    cs = c :: ((if ds.isEmpty then [] else '.' :: ds) ++
      'e' :: (if s.exponent < 0 then '-' else '+') :: es) ∧
    IsDigits es ∧ width ≤ es.length ∧ ofDigits es = s.exponent.natAbs

/-- Behind the point there is always a digit. -/
theorem isDigits_fraction {ds : List Char} (h : IsDigits ds) :
    IsDigits (if ds.isEmpty then ['0'] else ds) ∧ (if ds.isEmpty then ['0'] else ds) ≠ [] := by
  split
  · exact ⟨isDigits_replicate_zero 1, List.cons_ne_nil _ _⟩
  · rename_i hempty
    exact ⟨h, fun hnil => hempty (List.isEmpty_iff.2 hnil)⟩

theorem isPositional_positional {s : Significand} (h : s.IsNormal) : IsPositional s.positional := by
  obtain ⟨⟨hne, hdigits⟩, hzero⟩ := h
  obtain ⟨ds, e⟩ := s
  simp only at hne hdigits hzero
  simp only [positional]
  split
  · refine ⟨'0', [], _, rfl, isDigits_replicate_zero 1, fun _ => rfl, ?_, ?_⟩
    · exact (isDigits_replicate_zero _).append hdigits
    · exact List.append_ne_nil_of_right_ne_nil _ hne
  · obtain ⟨hfraction, hfne⟩ := isDigits_fraction (hdigits.drop (e.toNat + 1))
    generalize (if (ds.drop (e.toNat + 1)).isEmpty then ['0'] else ds.drop (e.toNat + 1))
      = fraction at hfraction hfne ⊢
    obtain ⟨c, ds, rfl⟩ := List.exists_cons_of_ne_nil hne
    refine ⟨c, ds.take e.toNat ++ List.replicate (e.toNat - ds.length) '0', fraction, ?_, ?_, ?_,
      hfraction, hfne⟩
    · rw [List.take_succ_cons, List.length_cons, Nat.add_sub_add_right, List.cons_append,
        List.cons_append]
    · exact (hdigits.take (e.toNat + 1)).append (isDigits_replicate_zero _)
    · rintro rfl
      obtain ⟨rfl, rfl⟩ := hzero ds rfl
      rfl

theorem isScientificIn_scientific {s : Significand} (h : s.IsProper) {style : NumberStyle}
    (hplus : style.plusSign = true) :
    s.IsScientificIn style.exponentDigits (s.scientific style) := by
  obtain ⟨ds, e⟩ := s
  obtain ⟨hne, -⟩ := h
  have hsign : (if e < 0 then ['-'] else if style.plusSign = true then ['+'] else []) =
      [if e < 0 then '-' else '+'] := by
    rw [hplus, if_pos rfl]
    split <;> rfl
  have hlength : style.exponentDigits ≤ (padded style.exponentDigits e.natAbs).length := by
    rw [length_padded]
    exact Nat.le_max_left _ _
  obtain ⟨c, ds, rfl⟩ := List.exists_cons_of_ne_nil hne
  simp only [scientific]
  rw [hsign]
  refine ⟨c, ds, _, rfl, ?_, isDigits_padded _ _, hlength, ofDigits_padded _ _⟩
  cases ds with
  | nil => rfl
  | cons d ds => rfl

end Significand

namespace Binary64

variable {x : Binary64}

theorem significand_of_isZero (hz : x.isZero = true) (tie : Tie) :
    x.significand tie = ⟨['0'], 0⟩ := by
  rw [significand, if_pos hz]

theorem significand_isNormal (h : x.isFinite = true) (tie : Tie) : (x.significand tie).IsNormal := by
  cases hz : x.isZero with
  | true =>
    rw [significand_of_isZero hz]
    refine ⟨⟨List.cons_ne_nil _ _, isDigits_replicate_zero 1⟩, fun cs hcs => ?_⟩
    rw [List.cons.injEq] at hcs
    exact ⟨hcs.2.symm, rfl⟩
  | false => exact (significand_isShortest h hz tie).isNormal

/-- **The layout is that of the exponent.** -/
theorem written_layout (h : x.isFinite = true) (style : NumberStyle)
    (hplus : style.plusSign = true) :
    ∃ body, x.written style = (if x.negative then ['-'] else []) ++ body ∧
      (style.leastExponent ≤ (x.significand style.tie).exponent ∧
          (x.significand style.tie).exponent ≤ style.greatestExponent → IsPositional body) ∧
      (¬(style.leastExponent ≤ (x.significand style.tie).exponent ∧
          (x.significand style.tie).exponent ≤ style.greatestExponent) →
        (x.significand style.tie).IsScientificIn style.exponentDigits body) := by
  have hnormal := significand_isNormal h style.tie
  refine ⟨_, written_of_isFinite h style, fun hin => ?_, fun hout => ?_⟩
  · rw [Significand.written, if_pos hin]
    exact Significand.isPositional_positional hnormal
  · rw [Significand.written, if_neg hout]
    exact Significand.isScientificIn_scientific hnormal.isProper hplus

end Binary64
end ShareStreaks
