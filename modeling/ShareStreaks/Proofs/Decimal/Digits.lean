import ShareStreaks.Decimal.Literal

/-!
# Digits, and how they are read

Facts about lists of decimal digits, `ofDigits` of their pieces, and what `readDecimal` makes of
digits around a point (`readDecimal_point`) or in front of an exponent (`readDecimal_no_point`).  A
natural number that fits is read back from its digits (`readNatural_digits`).
-/

set_option autoImplicit false

namespace ShareStreaks

/-! ## Digits -/

/-- All the characters are decimal digits. -/
def IsDigits (cs : List Char) : Prop := ∀ c ∈ cs, c.isDigit = true

theorem IsDigits.append {cs ds : List Char} (h : IsDigits cs) (h' : IsDigits ds) :
    IsDigits (cs ++ ds) :=
  List.forall_mem_append.2 ⟨h, h'⟩

theorem IsDigits.take {cs : List Char} (h : IsDigits cs) (n : Nat) : IsDigits (cs.take n) :=
  fun c hc => h c (List.mem_of_mem_take hc)

theorem IsDigits.drop {cs : List Char} (h : IsDigits cs) (n : Nat) : IsDigits (cs.drop n) :=
  fun c hc => h c (List.mem_of_mem_drop hc)

theorem isDigits_takeWhile (cs : List Char) : IsDigits (cs.takeWhile Char.isDigit) :=
  List.all_eq_true.1 List.all_takeWhile

theorem isDigits_replicate_zero (n : Nat) : IsDigits (List.replicate n '0') := by
  intro c hc
  rw [List.eq_of_mem_replicate hc]
  rfl

theorem isDigits_digits (n : Nat) : IsDigits (digits n) :=
  fun _ hc => Nat.isDigit_of_mem_toDigits (by decide) (by decide) hc

theorem digits_ne_nil (n : Nat) : digits n ≠ [] := Nat.toDigits_ne_nil

theorem digits_injective : Function.Injective digits :=
  Function.LeftInverse.injective ofDigits_digits

/-- The last digit is the rest on division by ten. -/
theorem digits_eq_append (n : Nat) : ∃ ds, digits n = ds ++ [Nat.digitChar (n % 10)] := by
  rcases Nat.lt_or_ge n 10 with h | h
  · exact ⟨[], by rw [digits, Nat.toDigits_of_lt_base h, Nat.mod_eq_of_lt h, List.nil_append]⟩
  · exact ⟨digits (n / 10), Nat.toDigits_of_base_le (by decide) h⟩

/-- The first digit is not zero. -/
theorem digits_eq_cons {n : Nat} (h : n ≠ 0) : ∃ c cs, digits n = c :: cs ∧ c ≠ '0' := by
  induction n using Nat.strongRecOn with
  | ind n ih =>
    rcases Nat.lt_or_ge n 10 with hlt | hge
    · refine ⟨n.digitChar, [], Nat.toDigits_of_lt_base hlt, ?_⟩
      rw [ne_eq, Nat.digitChar_eq_zero]
      exact h
    · obtain ⟨c, cs, hcs, hc⟩ := ih (n / 10) (by omega) (by omega)
      refine ⟨c, cs ++ [(n % 10).digitChar], ?_, hc⟩
      rw [digits, Nat.toDigits_of_base_le (by decide) hge, ← digits, hcs, List.cons_append]

theorem isDigits_padded (width n : Nat) : IsDigits (padded width n) :=
  (isDigits_replicate_zero _).append (isDigits_digits n)

theorem length_padded (width n : Nat) : (padded width n).length = max width (digits n).length := by
  rw [padded, List.length_append, List.length_replicate]
  omega

theorem padded_ne_nil (width n : Nat) : padded width n ≠ [] :=
  List.append_ne_nil_of_right_ne_nil _ (digits_ne_nil n)

theorem ofDigits_append (cs ds : List Char) :
    ofDigits (cs ++ ds) = 10 ^ ds.length * ofDigits cs + ofDigits ds := by
  rw [ofDigits, Nat.ofDigitChars_append, Nat.ofDigitChars_eq_ofDigitChars_zero]
  rfl

theorem ofDigits_replicate_zero (n : Nat) : ofDigits (List.replicate n '0') = 0 := by
  rw [ofDigits, Nat.ofDigitChars_replicate_zero, Nat.mul_zero]

theorem ofDigits_zeros_append (n : Nat) (cs : List Char) :
    ofDigits (List.replicate n '0' ++ cs) = ofDigits cs := by
  rw [ofDigits_append, ofDigits_replicate_zero, Nat.mul_zero, Nat.zero_add]

theorem ofDigits_append_zeros (cs : List Char) (n : Nat) :
    ofDigits (cs ++ List.replicate n '0') = ofDigits cs * 10 ^ n := by
  rw [ofDigits_append, ofDigits_replicate_zero, List.length_replicate, Nat.add_zero, Nat.mul_comm]

theorem ofDigits_padded (width n : Nat) : ofDigits (padded width n) = n := by
  rw [padded, ofDigits_zeros_append, ofDigits_digits]

/-! ## The reader -/

/-- Digits are read up to whatever is no digit. -/
theorem takeWhile_isDigit {cs : List Char} (h : IsDigits cs) (rest : List Char)
    (hrest : rest.head?.all (!·.isDigit) = true) :
    (cs ++ rest).takeWhile Char.isDigit = cs ∧ (cs ++ rest).dropWhile Char.isDigit = rest := by
  rw [List.takeWhile_append_of_pos h, List.dropWhile_append_of_pos h]
  cases rest with
  | nil => exact ⟨List.append_nil _, rfl⟩
  | cons c rest =>
    have hc : ¬ c.isDigit = true := by simpa using hrest
    rw [List.takeWhile_cons_of_neg hc, List.dropWhile_cons_of_neg hc, List.append_nil]
    exact ⟨rfl, rfl⟩

/-- A sign that may be left out, and whether it is a minus. -/
inductive IsSign : List Char → Bool → Prop where
  | absent : IsSign [] false
  | plus : IsSign ['+'] false
  | minus : IsSign ['-'] true

theorem isSign_ite (negative : Bool) : IsSign (if negative then ['-'] else []) negative := by
  cases negative with
  | true => exact .minus
  | false => exact .absent

theorem isSign_splitSign (cs : List Char) :
    ∃ sign, IsSign sign (splitSign cs).1 ∧ cs = sign ++ (splitSign cs).2 := by
  unfold splitSign
  split
  · exact ⟨_, .minus, rfl⟩
  · exact ⟨_, .plus, rfl⟩
  · exact ⟨_, .absent, rfl⟩

theorem splitSign_append {sign cs : List Char} {negative : Bool} (h : IsSign sign negative)
    (hcs : splitSign cs = (false, cs)) : splitSign (sign ++ cs) = (negative, cs) := by
  cases h with
  | absent => exact hcs
  | plus => rfl
  | minus => rfl

theorem splitSign_of_isDigit {c : Char} (h : c.isDigit = true) (cs : List Char) :
    splitSign (c :: cs) = (false, c :: cs) := by
  rw [splitSign]
  · rintro _ ⟨⟩; exact absurd h (by decide)
  · rintro _ ⟨⟩; exact absurd h (by decide)

/-- A number is its size with its sign. -/
theorem ite_neg_natAbs (n : Int) :
    (if decide (n < 0) = true then -(n.natAbs : Int) else n.natAbs) = n := by
  split
  · rename_i hneg
    have hneg' := of_decide_eq_true hneg
    omega
  · rename_i hpos
    have hpos' : ¬ n < 0 := fun hneg => hpos (decide_eq_true hneg)
    omega

theorem splitSign_signedDigits (n : Int) :
    splitSign (signedDigits n) = (decide (n < 0), digits n.natAbs) := by
  rw [signedDigits]
  split
  · rename_i hneg
    rw [decide_eq_true hneg]
    rfl
  · rename_i hpos
    obtain ⟨c, cs, hcons⟩ := List.exists_cons_of_ne_nil (digits_ne_nil n.natAbs)
    have hdigit : c.isDigit = true :=
      isDigits_digits n.natAbs c (by rw [hcons]; exact List.mem_cons_self ..)
    rw [decide_eq_false hpos, hcons, splitSign_of_isDigit hdigit]

theorem readExponent_sign {ds : List Char} (h : IsDigits ds) (hne : ds ≠ []) (e : Int)
    (he : ofDigits ds = e.natAbs) (plusSign : Bool) :
    readExponent ('e' :: ((if e < 0 then ['-'] else if plusSign then ['+'] else []) ++ ds)) =
      some e := by
  have hall : ds.all Char.isDigit = true := List.all_eq_true.2 h
  have hempty : ds.isEmpty = false := List.isEmpty_eq_false_iff.2 hne
  have hsplit : splitSign ((if e < 0 then ['-'] else if plusSign then ['+'] else []) ++ ds)
      = (decide (e < 0), ds) := by
    split
    · rename_i hneg
      rw [decide_eq_true hneg]
      rfl
    · rename_i hneg
      rw [decide_eq_false hneg]
      cases plusSign with
      | true => rfl
      | false =>
        cases ds with
        | nil => exact absurd rfl hne
        | cons d ds => exact splitSign_of_isDigit (h d (List.mem_cons_self ..)) ds
  simp only [readExponent]
  rw [hsplit, hall, hempty, he]
  exact (if_pos rfl).trans (congrArg some (ite_neg_natAbs e))

/-- Digits around a point, and what is read as an exponent after them. -/
theorem readDecimal_point {whole fraction : List Char} (hwhole : IsDigits whole)
    (hfraction : IsDigits fraction) (hne : whole ≠ [] ∨ fraction ≠ []) (rest : List Char)
    (hrest : rest.head?.all (!·.isDigit) = true) :
    readDecimal (whole ++ '.' :: (fraction ++ rest)) =
      (readExponent rest).map fun e => ⟨ofDigits (whole ++ fraction), e - fraction.length⟩ := by
  obtain ⟨htake, hdrop⟩ := takeWhile_isDigit hwhole ('.' :: (fraction ++ rest)) rfl
  obtain ⟨htake', hdrop'⟩ := takeWhile_isDigit hfraction rest hrest
  have hempty : (whole.isEmpty && fraction.isEmpty) = false := by
    rw [Bool.and_eq_false_iff, List.isEmpty_eq_false_iff, List.isEmpty_eq_false_iff]
    exact hne
  simp only [readDecimal]
  rw [htake, hdrop, splitFraction, htake', hdrop', hempty, if_neg Bool.false_ne_true]

/-- Digits around a point, and nothing after them. -/
theorem readDecimal_fraction {whole fraction : List Char} (hwhole : IsDigits whole)
    (hne : whole ≠ []) (hfraction : IsDigits fraction) :
    readDecimal (whole ++ '.' :: fraction) =
      some ⟨ofDigits (whole ++ fraction), 0 - fraction.length⟩ := by
  have h := readDecimal_point hwhole hfraction (.inl hne) [] rfl
  rw [List.append_nil] at h
  exact h

theorem readDecimal_no_point {whole : List Char} (hwhole : IsDigits whole) (hne : whole ≠ [])
    (rest : List Char) (hrest : rest.head?.all (!·.isDigit) = true) (hpoint : rest.head? ≠ some '.') :
    readDecimal (whole ++ rest) = (readExponent rest).map fun e => ⟨ofDigits whole, e⟩ := by
  obtain ⟨htake, hdrop⟩ := takeWhile_isDigit hwhole rest hrest
  have hsplit : splitFraction rest = ([], rest) := by
    rw [splitFraction]
    rintro cs rfl
    exact hpoint rfl
  simp only [readDecimal]
  rw [htake, hdrop, hsplit, List.isEmpty_eq_false_iff.2 hne, Bool.false_and,
    if_neg Bool.false_ne_true]
  simp

/-! ## Whole numbers -/

theorem le_ofDigitChars (cs : List Char) (n : Nat) : n ≤ Nat.ofDigitChars 10 cs n := by
  rw [Nat.ofDigitChars_eq_ofDigitChars_zero]
  exact Nat.le_trans (Nat.le_mul_of_pos_left n (Nat.pow_pos (by decide))) (Nat.le_add_right _ _)

/-- Digits whose number is within the limit are read to the end. -/
theorem readDigits_eq_ok {limit : Nat} (fault : IntegerFault) {cs : List Char} (h : IsDigits cs)
    (n : { n : Nat // n ≤ limit }) (hle : Nat.ofDigitChars 10 cs n.1 ≤ limit) :
    readDigits limit fault n cs = .ok ⟨Nat.ofDigitChars 10 cs n.1, hle⟩ := by
  induction cs generalizing n with
  | nil => rfl
  | cons c cs ih =>
    have hstep : 10 * n.1 + (c.toNat - '0'.toNat) ≤ limit := by
      rw [Nat.ofDigitChars_cons] at hle
      exact Nat.le_trans (le_ofDigitChars cs _) hle
    rw [readDigits, if_pos (h c (List.mem_cons_self ..)), dif_pos hstep]
    exact ih (fun d hd => h d (List.mem_cons_of_mem c hd)) ⟨_, hstep⟩ hle

/-- **Nothing else is read.** -/
theorem readDigits_eq_ok_iff {limit : Nat} {fault : IntegerFault} {cs : List Char}
    {n m : { n : Nat // n ≤ limit }} :
    readDigits limit fault n cs = .ok m ↔ IsDigits cs ∧ Nat.ofDigitChars 10 cs n.1 = m.1 := by
  constructor
  · intro h
    induction cs generalizing n with
    | nil =>
      obtain rfl := Except.ok.inj h
      exact ⟨fun c hc => absurd hc List.not_mem_nil, rfl⟩
    | cons c cs ih =>
      rw [readDigits] at h
      split at h
      · rename_i hc
        split at h
        · obtain ⟨hcs, hvalue⟩ := ih h
          exact ⟨List.forall_mem_cons.2 ⟨hc, hcs⟩, hvalue⟩
        · exact nomatch h
      · exact nomatch h
  · rintro ⟨hcs, hvalue⟩
    rw [readDigits_eq_ok fault hcs n (hvalue ▸ m.2)]
    exact congrArg Except.ok (Subtype.ext hvalue)

theorem readNatural_of_isDigits {cs : List Char} (h : IsDigits cs) (hne : cs ≠ []) :
    readNatural cs = readDigits _ .tooLarge ⟨0, Nat.zero_le _⟩ cs := by
  cases cs with
  | nil => exact absurd rfl hne
  | cons c cs =>
    unfold readNatural
    split
    · rename_i heq
      rw [List.cons.injEq] at heq
      have hdigit := h c (List.mem_cons_self ..)
      rw [heq.1] at hdigit
      exact absurd hdigit (by decide)
    · rfl

theorem readNatural_digits {n : Nat} (h : n ≤ wordSize - 1) :
    readNatural (digits n) = .ok ⟨n, h⟩ := by
  have hvalue : Nat.ofDigitChars 10 (digits n) 0 = n := ofDigits_digits n
  have hread := readDigits_eq_ok .tooLarge (isDigits_digits n)
    (⟨0, Nat.zero_le _⟩ : { m : Nat // m ≤ wordSize - 1 }) (by rw [hvalue]; exact h)
  simp only [hvalue] at hread
  rw [readNatural_of_isDigits (isDigits_digits n) (digits_ne_nil n), hread]

/-- An integer that is written out is read back. -/
theorem readInteger_signedDigits {n : Int} (h : -2 ^ 63 ≤ n) (h' : n < 2 ^ 63) :
    readInteger (signedDigits n) = .ok n := by
  have hsplit := splitSign_signedDigits n
  have hdigits := List.isEmpty_eq_false_iff.2 (digits_ne_nil n.natAbs)
  have hempty : (signedDigits n).isEmpty = false := by
    rw [List.isEmpty_eq_false_iff]
    intro hnil
    rw [hnil] at hsplit
    exact digits_ne_nil n.natAbs (congrArg Prod.snd hsplit).symm
  have hread {limit : Nat} (fault : IntegerFault) (hle : n.natAbs ≤ limit) :
      readDigits limit fault ⟨0, Nat.zero_le _⟩ (digits n.natAbs) = .ok ⟨n.natAbs, hle⟩ :=
    readDigits_eq_ok_iff.2 ⟨isDigits_digits n.natAbs, ofDigits_digits n.natAbs⟩
  simp only [readInteger]
  rw [hsplit, hempty, if_neg Bool.false_ne_true, hdigits, if_neg Bool.false_ne_true]
  by_cases hneg : n < 0
  · rw [if_pos (decide_eq_true hneg), hread .tooSmall (by omega)]
    show Except.ok (-(n.natAbs : Int)) = .ok n
    rw [show -(n.natAbs : Int) = n by omega]
  · rw [if_neg (mt of_decide_eq_true hneg), hread .tooLarge (by omega)]
    show Except.ok (n.natAbs : Int) = .ok n
    rw [show (n.natAbs : Int) = n by omega]

end ShareStreaks
