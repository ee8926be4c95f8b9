import Mathlib.Tactic.FieldSimp
import ShareStreaks.Proofs.Decimal.Nearest
import ShareStreaks.Proofs.Decimal.ReadBack

/-!
# Which texts are numbers

The literals that are read, said without the reader.  A decimal one is made of digits with at most one
point and perhaps an exponent, and stands for a rational number (`IsDecimalText`); with or without a sign
it is read as the nearest `Binary64`.  The others are the words for infinity and for what is not a number
(`IsLiteral`).  A natural number is digits, perhaps after a plus sign (`IsNaturalText`).

The readers take exactly these texts, with these values (`readBinary64_eq_ok_iff`,
`readNatural_eq_ok_iff`).  Digits, point and exponent can be told apart by their first characters, so a
text is taken apart in one way only.
-/

set_option autoImplicit false

namespace ShareStreaks

/-! ## Texts -/

/-- An exponent of ten that may be left out. -/
inductive IsExponentText : List Char → Int → Prop where
  | absent : IsExponentText [] 0
  | present {mark : Char} {sign ds : List Char} {negative : Bool} (hmark : mark = 'e' ∨ mark = 'E')
      (hsign : IsSign sign negative) (hds : IsDigits ds) (hne : ds ≠ []) :
      IsExponentText (mark :: (sign ++ ds)) (if negative then -(ofDigits ds) else ofDigits ds)

/-- Digits with at most one point among them, one digit at least, and an exponent; and the number that
this is. -/
inductive IsDecimalText : List Char → ℚ → Prop where
  | whole {whole exponent : List Char} {e : Int} (hwhole : IsDigits whole) (hne : whole ≠ [])
      (hexponent : IsExponentText exponent e) :
      IsDecimalText (whole ++ exponent) (ofDigits whole * 10 ^ e)
  | point {whole fraction exponent : List Char} {e : Int} (hwhole : IsDigits whole)
      (hfraction : IsDigits fraction) (hne : whole ≠ [] ∨ fraction ≠ [])
      (hexponent : IsExponentText exponent e) :
      IsDecimalText (whole ++ '.' :: (fraction ++ exponent))
        ((ofDigits whole + ofDigits fraction / 10 ^ fraction.length) * 10 ^ e)

/-- A literal and the value it is read as: a decimal as the nearest number, with the sign of the literal
also if that is zero, and a word in letters of either case. -/
inductive IsLiteral : List Char → Binary64 → Prop where
  | decimal {sign cs : List Char} {x : Binary64} {v : ℚ} (hsign : IsSign sign x.negative)
      (hcs : IsDecimalText cs v) (hnearest : Binary64.IsNearest v x.magnitude) :
      IsLiteral (sign ++ cs) x
  | infinity {sign cs : List Char} {negative : Bool} (hsign : IsSign sign negative)
      (hcs : cs.map Char.toLower = "inf".toList ∨ cs.map Char.toLower = "infinity".toList) :
      IsLiteral (sign ++ cs) (.infinity negative)
  | notANumber {sign cs : List Char} {negative : Bool} (hsign : IsSign sign negative)
      (hcs : cs.map Char.toLower = "nan".toList) :
      IsLiteral (sign ++ cs) { Binary64.notANumber with negative := negative }

/-- Digits after a plus sign that may be left out, and the number that they are. -/
inductive IsNaturalText : List Char → Nat → Prop where
  | digits {ds : List Char} (hds : IsDigits ds) (hne : ds ≠ []) : IsNaturalText ds (ofDigits ds)
  | plus {ds : List Char} (hds : IsDigits ds) (hne : ds ≠ []) :
      IsNaturalText ('+' :: ds) (ofDigits ds)

variable {cs sign : List Char} {negative : Bool}

/-! ## Exponents -/

theorem exponent_iff {mark : Char} {ds : List Char} :
    ((mark == 'e' || mark == 'E') && !ds.isEmpty && ds.all Char.isDigit) = true ↔
      (mark = 'e' ∨ mark = 'E') ∧ ds ≠ [] ∧ IsDigits ds := by
  rw [Bool.and_eq_true, Bool.and_eq_true, Bool.or_eq_true, beq_iff_eq, beq_iff_eq, Bool.not_eq_true',
    List.isEmpty_eq_false_iff, List.all_eq_true, and_assoc]
  rfl

theorem readExponent_eq_some_iff {e : Int} : readExponent cs = some e ↔ IsExponentText cs e := by
  constructor
  · intro h
    cases cs with
    | nil =>
      obtain rfl := Option.some_inj.1 h
      exact .absent
    | cons c cs =>
      obtain ⟨sign, hsign, hcs⟩ := isSign_splitSign cs
      simp only [readExponent] at h
      split at h
      · rename_i hread
        obtain ⟨hmark, hne, hds⟩ := exponent_iff.1 hread
        rw [hcs, ← Option.some_inj.1 h]
        exact .present hmark hsign hds hne
      · cases h
  · intro h
    cases h with
    | absent => rfl
    | @present mark sign ds negative hmark hsign hds hne =>
      have hplain : splitSign ds = (false, ds) := by
        obtain ⟨c, cs, rfl⟩ := List.exists_cons_of_ne_nil hne
        exact splitSign_of_isDigit (hds c List.mem_cons_self) cs
      simp only [readExponent]
      rw [splitSign_append hsign hplain]
      exact if_pos (exponent_iff.2 ⟨hmark, hne, hds⟩)

/-- An exponent begins neither with a digit nor with a point. -/
theorem IsExponentText.head {e : Int} (h : IsExponentText cs e) :
    cs.head?.all (!·.isDigit) = true ∧ cs.head? ≠ some '.' := by
  cases h with
  | absent => exact ⟨rfl, by simp⟩
  | present hmark hsign hds hne => rcases hmark with rfl | rfl <;> exact ⟨rfl, by simp⟩

/-! ## Decimals -/

/-- Digits on both sides of the point are one coefficient, with as many digits too much as there are
behind the point. -/
theorem toRat_point (whole fraction : List Char) (e : Int) :
    (⟨ofDigits (whole ++ fraction), e - fraction.length⟩ : Decimal).toRat =
      (ofDigits whole + ofDigits fraction / 10 ^ fraction.length) * 10 ^ e := by
  have hten : (10 : ℚ) ≠ 0 := by norm_num
  rw [Decimal.toRat, ofDigits_append]
  push_cast
  rw [zpow_sub₀ hten, zpow_natCast]
  field_simp

theorem isDecimalText_of_readDecimal {d : Decimal} (h : readDecimal cs = some d) :
    IsDecimalText cs d.toRat := by
  have hwhole := isDigits_takeWhile cs
  have hcs : cs = cs.takeWhile Char.isDigit ++ cs.dropWhile Char.isDigit :=
    List.takeWhile_append_dropWhile.symm
  simp only [readDecimal] at h
  generalize cs.takeWhile Char.isDigit = whole at h hwhole hcs
  generalize cs.dropWhile Char.isDigit = rest at h hcs
  rw [hcs]
  unfold splitFraction at h
  split at h
  · rename_i after
    have hfraction := isDigits_takeWhile after
    have hafter : after = after.takeWhile Char.isDigit ++ after.dropWhile Char.isDigit :=
      List.takeWhile_append_dropWhile.symm
    simp only at h
    generalize after.takeWhile Char.isDigit = fraction at h hfraction hafter
    generalize after.dropWhile Char.isDigit = exponent at h hafter
    split at h
    · cases h
    · rename_i hne
      rw [Bool.and_eq_true, List.isEmpty_iff, List.isEmpty_iff, not_and_or] at hne
      obtain ⟨e, hread, rfl⟩ := Option.map_eq_some_iff.1 h
      rw [hafter, toRat_point]
      exact .point hwhole hfraction hne (readExponent_eq_some_iff.1 hread)
  · simp only at h
    split at h
    · cases h
    · rename_i hne
      rw [List.isEmpty_nil, Bool.and_true, List.isEmpty_iff] at hne
      obtain ⟨e, hread, rfl⟩ := Option.map_eq_some_iff.1 h
      rw [List.append_nil, List.length_nil, Int.natCast_zero, Int.sub_zero]
      exact .whole hwhole hne (readExponent_eq_some_iff.1 hread)

theorem exists_readDecimal {v : ℚ} (h : IsDecimalText cs v) :
    ∃ d, readDecimal cs = some d ∧ d.toRat = v := by
  cases h with
  | @whole whole exponent e hwhole hne hexponent =>
    obtain ⟨hdigit, hpoint⟩ := hexponent.head
    refine ⟨⟨ofDigits whole, e⟩, ?_, rfl⟩
    rw [readDecimal_no_point hwhole hne _ hdigit hpoint, readExponent_eq_some_iff.2 hexponent]
    rfl
  | point hwhole hfraction hne hexponent =>
    refine ⟨_, ?_, toRat_point _ _ _⟩
    rw [readDecimal_point hwhole hfraction hne _ hexponent.head.1, readExponent_eq_some_iff.2 hexponent]
    rfl

/-! ## Literals -/

/-- A word does not begin like a number: lower case changes none of the characters of numbers. -/
theorem head_of_readSpecial {x : Binary64} (h : readSpecial negative (cs.map Char.toLower) = some x) :
    ∃ c rest, cs = c :: rest ∧ ¬(c.isDigit = true ∨ c ∈ ['+', '-', '.']) := by
  cases cs with
  | nil => cases h
  | cons c rest =>
    refine ⟨c, rest, rfl, fun hc => ?_⟩
    have hlower : c.toLower = c := by
      rcases hc with hdigit | hmem
      · rw [Char.isDigit_iff_toNat] at hdigit
        refine dif_neg fun hupper => ?_
        have hge := UInt32.le_iff_toNat_le.1 hupper.1
        have hA : 'A'.val.toNat = 65 := rfl
        have hnine : '9'.val.toNat = 57 := rfl
        have hle : c.val.toNat ≤ '9'.val.toNat := hdigit.2
        omega
      · simp only [List.mem_cons, List.not_mem_nil, or_false] at hmem
        rcases hmem with rfl | rfl | rfl <;> rfl
    have hfirst : c ≠ 'i' ∧ c ≠ 'n' := by
      constructor
      · rintro rfl
        exact absurd hc (by decide)
      · rintro rfl
        exact absurd hc (by decide)
    simp [readSpecial, hlower, hfirst] at h

/-- A decimal begins with a digit or a point. -/
theorem IsDecimalText.head {v : ℚ} (h : IsDecimalText cs v) :
    ∃ c rest, cs = c :: rest ∧ (c.isDigit = true ∨ c = '.') := by
  cases h with
  | whole hwhole hne hexponent =>
    obtain ⟨c, rest, rfl⟩ := List.exists_cons_of_ne_nil hne
    exact ⟨c, _, rfl, .inl (hwhole c List.mem_cons_self)⟩
  | @point whole fraction exponent e hwhole hfraction hne hexponent =>
    cases whole with
    | nil => exact ⟨'.', _, rfl, .inr rfl⟩
    | cons c rest => exact ⟨c, _, rfl, .inl (hwhole c List.mem_cons_self)⟩

theorem readBinary64_of_readSpecial (hsign : IsSign sign negative) {x : Binary64}
    (h : readSpecial negative (cs.map Char.toLower) = some x) :
    readBinary64 (sign ++ cs) = .ok x := by
  obtain ⟨c, rest, rfl, hc⟩ := head_of_readSpecial h
  have hnone : readDecimal (c :: rest) = none := by
    refine Option.eq_none_iff_forall_ne_some.2 fun d hd => hc ?_
    obtain ⟨c', rest', heq, hhead⟩ := (isDecimalText_of_readDecimal hd).head
    rw [(List.cons.inj heq).1]
    exact hhead.imp_right fun hpoint => by rw [hpoint]; decide
  have hplain : splitSign (c :: rest) = (false, c :: rest) := by
    rw [splitSign]
    · rintro _ ⟨⟩
      exact hc (.inr (by decide))
    · rintro _ ⟨⟩
      exact hc (.inr (by decide))
  rw [readBinary64_append hsign hplain (List.cons_ne_nil c rest), hnone]
  simp only [h]

/-- **The literals are read as their values, and nothing else is read.** -/
theorem readBinary64_eq_ok_iff {x : Binary64} : readBinary64 cs = .ok x ↔ IsLiteral cs x := by
  constructor
  · intro h
    obtain ⟨sign, hsign, hcs⟩ := isSign_splitSign cs
    rw [readBinary64] at h
    split at h
    · cases h
    · generalize splitSign cs = split at h hsign hcs
      obtain ⟨negative, rest⟩ := split
      simp only at h hsign hcs
      rw [hcs]
      split at h
      · rename_i d hd
        rw [← Except.ok.inj h]
        exact .decimal hsign (isDecimalText_of_readDecimal hd) ((Decimal.isNearest_iff d).2 rfl)
      · split at h
        · rename_i y hy
          rw [← Except.ok.inj h]
          unfold readSpecial at hy
          split at hy
          · rename_i hword
            rw [← Option.some_inj.1 hy]
            exact .infinity hsign hword
          · split at hy
            · rename_i hword
              rw [← Option.some_inj.1 hy]
              exact .notANumber hsign hword
            · cases hy
        · cases h
  · intro h
    cases h with
    | @decimal sign cs x v hsign hcs hnearest =>
      obtain ⟨d, hread, rfl⟩ := exists_readDecimal hcs
      rw [readBinary64_sign hsign hread, Decimal.nearest_eq ((Decimal.isNearest_iff d).1 hnearest)]
    | infinity hsign hcs => exact readBinary64_of_readSpecial hsign (if_pos hcs)
    | notANumber hsign hcs =>
      refine readBinary64_of_readSpecial hsign ?_
      rw [readSpecial, hcs]
      rfl

/-! ## Natural numbers -/

theorem readNatural_plus {ds : List Char} (hne : ds ≠ []) :
    readNatural ('+' :: ds) = readDigits _ .tooLarge ⟨0, Nat.zero_le _⟩ ds := by
  cases ds with
  | nil => exact absurd rfl hne
  | cons c ds => rfl

/-- **Digits that fit are read as their number, and nothing else is read.** -/
theorem readNatural_eq_ok_iff {n : { n : Nat // n ≤ wordSize - 1 }} :
    readNatural cs = .ok n ↔ IsNaturalText cs n.1 := by
  constructor
  · intro h
    unfold readNatural at h
    split at h
    · rename_i ds
      split at h
      · cases h
      · simp only at h
        split at h
        · cases h
        · rename_i hne
          obtain ⟨hds, hvalue⟩ := readDigits_eq_ok_iff.1 h
          rw [List.isEmpty_iff] at hne
          exact hvalue ▸ .plus hds hne
    · split at h
      · cases h
      · rename_i hne
        rw [List.isEmpty_iff] at hne
        rw [if_neg (mt List.isEmpty_iff.1 hne)] at h
        obtain ⟨hds, hvalue⟩ := readDigits_eq_ok_iff.1 h
        exact hvalue ▸ .digits hds hne
  · intro h
    generalize hn : n.1 = m at h
    cases h with
    | digits hds hne =>
      rw [readNatural_of_isDigits hds hne, readDigits_eq_ok_iff]
      exact ⟨hds, hn.symm⟩
    | plus hds hne =>
      rw [readNatural_plus hne, readDigits_eq_ok_iff]
      exact ⟨hds, hn.symm⟩

end ShareStreaks
