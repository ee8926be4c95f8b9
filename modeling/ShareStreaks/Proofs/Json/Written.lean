import ShareStreaks.Output.Dump
import ShareStreaks.Proofs.Decimal.Layout
import ShareStreaks.Proofs.Json.Reader

/-!
# Reading what is written as JSON

The pieces that a dump is made of are read back: strings with all their escapes (`run_string`), numbers
(`reads_number`) and objects (`reads_object`).  `Reads` is what is shown of a value: wherever a value is
to follow, its text is read as this value, and the reader goes on behind it.

A number ends where a character comes that cannot stand in one.  So what comes behind a value begins with
such a character, or there is nothing behind it (`Ends`).
-/

set_option autoImplicit false

namespace ShareStreaks
namespace Json

/-! ## Tokens -/

theorem tokens_cons {p q : Place} {c : Char} {ts : List Token} (h : p.step c = some (ts, q))
    (cs : List Char) : tokens p (c :: cs) = (tokens q cs).map (ts ++ ·) := by
  rw [tokens, h, Option.bind_some]

/-- A character in the middle of a token. -/
theorem tokens_cons_nil {p q : Place} {c : Char} (h : p.step c = some ([], q)) (cs : List Char) :
    tokens p (c :: cs) = tokens q cs := by
  rw [tokens_cons h]
  exact Option.map_id'

/-- The text begins with no character of a number or a word. -/
def Ends (cs : List Char) : Prop := cs.head?.all (!isBare ·) = true

theorem tokens_bare {cs : List Char} (h : ∀ c ∈ cs, isBare c = true) (w rest : List Char) :
    tokens (.bare w) (cs ++ rest) = tokens (.bare (w ++ cs)) rest := by
  induction cs generalizing w with
  | nil => rw [List.nil_append, List.append_nil]
  | cons c cs ih =>
    have hc : isBare c = true := h c (List.mem_cons_self ..)
    have hstep : (Place.bare w).step c = some ([], .bare (w ++ [c])) := if_pos hc
    rw [List.cons_append, tokens_cons_nil hstep, ih fun d hd => h d (List.mem_cons_of_mem c hd),
      List.append_assoc, List.singleton_append]

/-- A number or a word is complete at its end. -/
theorem tokens_bare_of_ends {w : List Char} {v : Json} (h : plain? w = some v) {rest : List Char}
    (hrest : Ends rest) : tokens (.bare w) rest = (tokens .outside rest).map (.plain v :: ·) := by
  cases rest with
  | nil => exact congrArg (Option.map _) h
  | cons c rest =>
    have hc : isBare c = false := by simpa [Ends] using hrest
    have hstep : (Place.bare w).step c =
        (Place.start c).map fun r => (.plain v :: r.1, r.2) := by
      rw [Place.step, if_neg (by rw [hc]; exact Bool.false_ne_true), h, Option.bind_some]
    rw [tokens, hstep, tokens, Place.step]
    cases Place.start c with
    | none => rfl
    | some r => rw [Option.map_some, Option.bind_some, Option.bind_some, Option.map_map]; rfl

/-! ## One character of a string -/

theorem hexDigit?_digitChar : ∀ d < 16, hexDigit? (Nat.digitChar d) = some d := by decide

/-- A character is read back, escaped or not. -/
theorem tokens_stringChar (c : Char) (cs rest : List Char) :
    tokens (.inside cs none) (Dump.stringChar c ++ rest) =
      tokens (.inside (cs ++ [c]) none) rest := by
  have hescape {d : Char} (h : escaped? d = some c) (hu : d ≠ 'u') :
      tokens (.inside cs none) ('\\' :: d :: rest) = tokens (.inside (cs ++ [c]) none) rest := by
    have hstep : (Place.escape cs none).step d = some ([], .inside (cs ++ [c]) none) := by
      rw [Place.step, if_neg hu, if_neg (by decide), h, Option.map_some]
    rw [tokens_cons_nil (q := .escape cs none) rfl, tokens_cons_nil hstep]
  rw [Dump.stringChar]
  repeat' split
  any_goals
    rename_i h
    exact hescape (by rw [h]; rfl) (by decide)
  · rename_i hcontrol
    have hhigh := hexDigit?_digitChar (c.toNat / 16) (by omega)
    have hlow := hexDigit?_digitChar (c.toNat % 16) (by omega)
    have hthird : (Place.code cs none 2 0).step (Nat.digitChar (c.toNat / 16)) =
        some ([], .code cs none 3 (c.toNat / 16)) := by
      rw [Place.step, hhigh, Option.bind_some, if_pos (by decide), Nat.mul_zero, Nat.zero_add]
    have hfourth : (Place.code cs none 3 (c.toNat / 16)).step (Nat.digitChar (c.toNat % 16)) =
        some ([], .inside (cs ++ [c]) none) := by
      rw [Place.step, hlow, Option.bind_some, if_neg (by decide), Nat.div_add_mod, Place.afterCode,
        if_pos (Or.inl (by omega)), Char.ofNat_toNat, Option.map_some]
    show tokens (.inside cs none) ('\\' :: 'u' :: '0' :: '0' :: Nat.digitChar (c.toNat / 16) ::
      Nat.digitChar (c.toNat % 16) :: rest) = _
    rw [tokens_cons_nil (q := .escape cs none) rfl, tokens_cons_nil (q := .code cs none 0 0) rfl,
      tokens_cons_nil (q := .code cs none 1 0) rfl, tokens_cons_nil (q := .code cs none 2 0) rfl,
      tokens_cons_nil hthird, tokens_cons_nil hfourth]
  · rename_i hquote hbackslash _ _ _ _ _ hcontrol
    refine tokens_cons_nil ?_ rest
    rw [Place.step, if_neg hbackslash, if_neg fun h => h.elim (by decide) hcontrol, if_neg hquote]

theorem tokens_string (s : String) (rest : List Char) :
    tokens .outside (Dump.string s ++ rest) = (tokens .outside rest).map (.string s :: ·) := by
  have hinside (ds cs : List Char) :
      tokens (.inside cs none) (ds.flatMap Dump.stringChar ++ '"' :: rest) =
        (tokens .outside rest).map (.string (String.ofList (cs ++ ds)) :: ·) := by
    induction ds generalizing cs with
    | nil =>
      have hend : (Place.inside cs none).step '"' = some ([.string (String.ofList cs)], .outside) := rfl
      rw [List.append_nil]
      exact tokens_cons hend rest
    | cons d ds ih =>
      rw [List.flatMap_cons, List.append_assoc, tokens_stringChar, ih, List.append_assoc,
        List.singleton_append]
  rw [Dump.string, List.cons_append, List.append_assoc, List.singleton_append,
    tokens_cons_nil (q := .inside [] none) rfl, hinside, List.nil_append, String.ofList_toList]

/-! ## Numbers -/

theorem isExponent_of_isDigits {es : List Char} (h : IsDigits es) (hne : es ≠ []) {c : Char}
    (hc : c = '-' ∨ c = '+') : isExponent ('e' :: c :: es) = true := by
  have hsign : (splitSign (c :: es)).2 = es := by
    rcases hc with rfl | rfl <;> rfl
  rw [isExponent, hsign, List.isEmpty_eq_false_iff.2 hne, List.all_eq_true.2 h]
  rfl

/-- Digits, the first not being a needless zero, and what may follow them. -/
theorem isUnsigned_append {c : Char} {whole rest : List Char} (h : IsDigits (c :: whole))
    (hzero : c = '0' → whole = []) (hrest : rest.head?.all (!·.isDigit) = true)
    (hfraction : isFraction rest = true) : isUnsigned (c :: (whole ++ rest)) = true := by
  obtain ⟨htake, hdrop⟩ := takeWhile_isDigit h rest hrest
  rw [List.cons_append] at htake hdrop
  have hhead : ((c :: whole).head? != some '0' || (c :: whole).length == 1) = true := by
    rw [Bool.or_eq_true, bne_iff_ne, beq_iff_eq]
    by_cases hc : c = '0'
    · rw [hzero hc]
      exact Or.inr rfl
    · exact Or.inl fun heq => hc (Option.some.inj heq)
  simp only [isUnsigned]
  rw [htake, hdrop, hhead, hfraction]
  rfl

theorem isUnsigned_of_isPositional {cs : List Char} (h : IsPositional cs) : isUnsigned cs = true := by
  obtain ⟨c, whole, fraction, rfl, hdigits, hzero, hfraction, hne⟩ := h
  refine isUnsigned_append hdigits hzero rfl ?_
  obtain ⟨htake, hdrop⟩ := takeWhile_isDigit hfraction [] rfl
  rw [List.append_nil] at htake hdrop
  rw [isFraction, htake, hdrop, List.isEmpty_eq_false_iff.2 hne]
  rfl

theorem isUnsigned_of_isScientificIn {s : Significand} (hs : IsDigits s.digits) {width : Nat}
    (hwidth : 1 ≤ width) {cs : List Char} (h : s.IsScientificIn width cs) :
    isUnsigned cs = true := by
  obtain ⟨c, ds, es, hds, rfl, hes, hlength, -⟩ := h
  rw [hds] at hs
  have hexponent : isExponent ('e' :: (if s.exponent < 0 then '-' else '+') :: es) = true := by
    refine isExponent_of_isDigits hes (List.ne_nil_of_length_pos (by omega)) ?_
    split
    · exact Or.inl rfl
    · exact Or.inr rfl
  generalize (if s.exponent < 0 then '-' else '+') :: es = tail at hexponent ⊢
  have hfirst : IsDigits [c] := fun d hd => hs d (List.mem_singleton.1 hd ▸ List.mem_cons_self ..)
  show isUnsigned (c :: ([] ++ ((if ds.isEmpty then [] else '.' :: ds) ++ 'e' :: tail))) = true
  refine isUnsigned_append hfirst (fun _ => rfl) ?_ ?_
  · split <;> rfl
  · split
    · exact hexponent
    · rename_i hne
      have hrest : IsDigits ds := fun d hd => hs d (List.mem_cons_of_mem c hd)
      obtain ⟨htake, hdrop⟩ := takeWhile_isDigit hrest ('e' :: tail) rfl
      show isFraction ('.' :: (ds ++ 'e' :: tail)) = true
      rw [isFraction, htake, hdrop, hexponent, Bool.eq_false_iff.2 hne]
      rfl

theorem isNumber_of_isUnsigned {cs : List Char} (h : isUnsigned cs = true) : isNumber cs = true := by
  rw [isNumber]
  · exact h
  · rintro ds rfl
    exact absurd h Bool.false_ne_true

theorem isNumber_written {x : Binary64} (h : x.isFinite = true) :
    isNumber (x.written jsonStyle) = true := by
  obtain ⟨body, hbody, hin, hout⟩ := Binary64.written_layout h jsonStyle rfl
  have hunsigned : isUnsigned body = true := by
    by_cases hexponent : jsonStyle.leastExponent ≤ (x.significand jsonStyle.tie).exponent ∧
        (x.significand jsonStyle.tie).exponent ≤ jsonStyle.greatestExponent
    · exact isUnsigned_of_isPositional (hin hexponent)
    · exact isUnsigned_of_isScientificIn (Binary64.significand_isNormal h _).isProper.2
        (Nat.le_refl 1) (hout hexponent)
  rw [hbody]
  split
  · exact hunsigned
  · exact isNumber_of_isUnsigned hunsigned

theorem isBare_of_isNumeral {cs : List Char} (h : IsNumeral cs) : ∀ c ∈ cs, isBare c = true := by
  intro c hc
  rcases h c hc with hdigit | hmem
  · rw [isBare, Char.isAlphanum, hdigit, Bool.or_true]
    rfl
  · simp only [List.mem_cons, List.not_mem_nil, or_false] at hmem
    rcases hmem with rfl | rfl | rfl | rfl <;> rfl

/-- A share that is not finite is lost. -/
def ofShare (x : Binary64) : Json := if x.isFinite then .number x else .null

theorem written_of_not_isFinite {x : Binary64} (h : ¬ x.isFinite = true) :
    x.written jsonStyle = ['n', 'u', 'l', 'l'] := by
  rw [Binary64.written, if_neg h]
  split
  · rfl
  · split <;> rfl

theorem plain?_written (x : Binary64) : plain? (x.written jsonStyle) = some (ofShare x) := by
  rw [ofShare]
  split
  · rename_i h
    rw [plain?, if_pos (isNumber_written h), Binary64.readBinary64_written h jsonStyle]
    rfl
  · rename_i h
    rw [written_of_not_isFinite h]
    rfl

theorem isBare_written (x : Binary64) : ∀ c ∈ x.written jsonStyle, isBare c = true := by
  by_cases h : x.isFinite = true
  · exact isBare_of_isNumeral (Binary64.isNumeral_written h jsonStyle)
  · rw [written_of_not_isFinite h]
    simp only [List.forall_mem_cons]
    exact ⟨rfl, rfl, rfl, rfl, List.forall_mem_nil _⟩

/-! ## Values -/

/-- What a text is read as between two tokens. -/
def run (r : Reading) (cs : List Char) : Option Json := (tokens .outside cs).bind (parse r)

/-- Wherever a value is to follow, the text is read as this value. -/
def Reads (cs : List Char) (v : Json) : Prop :=
  ∀ stack rest, Ends rest → run (.value stack) (cs ++ rest) = run (.after v stack) rest

theorem parse_cons (r : Reading) (t : Token) (ts : List Token) :
    parse r (t :: ts) = (r.step t).bind (parse · ts) := by
  rw [parse]

/-- One token, and one step. -/
theorem run_of_tokens {r q : Reading} {t : Token} (hr : r.step t = some q) {cs rest : List Char}
    (h : tokens .outside cs = (tokens .outside rest).map (t :: ·)) : run r cs = run q rest := by
  rw [run, h, run]
  cases tokens .outside rest with
  | none => rfl
  | some ts =>
    rw [Option.map_some, Option.bind_some, Option.bind_some, parse_cons, hr, Option.bind_some]

theorem run_string {r q : Reading} {s : String} (hr : r.step (.string s) = some q)
    (rest : List Char) : run r (Dump.string s ++ rest) = run q rest :=
  run_of_tokens hr (tokens_string s rest)

theorem run_mark {r q : Reading} {c : Char} (hr : r.step (.mark c) = some q)
    (hc : Place.outside.step c = some ([.mark c], .outside)) (rest : List Char) :
    run r (c :: rest) = run q rest :=
  run_of_tokens hr (tokens_cons hc rest)

theorem run_blank (r : Reading) {c : Char} (hc : Place.outside.step c = some ([], .outside))
    (rest : List Char) : run r (c :: rest) = run r rest := by
  rw [run, tokens_cons_nil hc, run]

theorem run_indentation (r : Reading) (level : Nat) (rest : List Char) :
    run r (Dump.indentation level ++ rest) = run r rest := by
  rw [Dump.indentation]
  induction 2 * level with
  | zero => rfl
  | succ n ih => rw [List.replicate_succ, List.cons_append, run_blank r rfl, ih]

theorem reads_written (x : Binary64) : Reads (x.written jsonStyle) (ofShare x) := by
  intro stack rest hrest
  have hplain := plain?_written x
  have hbare := isBare_written x
  refine run_of_tokens (t := .plain (ofShare x)) rfl ?_
  cases hcs : x.written jsonStyle with
  | nil => rw [hcs] at hplain; exact nomatch hplain
  | cons c cs =>
    rw [hcs] at hplain hbare
    have hstart : Place.outside.step c = some ([], .bare [c]) := if_pos (hbare c (List.mem_cons_self ..))
    rw [List.cons_append, tokens_cons_nil hstart,
      tokens_bare (fun d hd => hbare d (List.mem_cons_of_mem c hd)), List.singleton_append,
      tokens_bare_of_ends hplain hrest]

/-! ## Objects -/

section Object

variable {α : Type} {key : α → String} {text : α → List Char} {value : α → Json}

/-- A member, where a key is to follow. -/
theorem run_member {r : Reading} {ms : List (String × Json)} {stack : List Frame} (a : α)
    (hr : r.step (.string (key a)) = some (.colon ms (key a) stack))
    (h : Reads (text a) (value a)) (level : Nat) {rest : List Char} (hrest : Ends rest) :
    run r (Dump.member level (Dump.string (key a), text a) ++ rest) =
      run (.after (value a) (.object ms (key a) :: stack)) rest := by
  rw [Dump.member, List.append_assoc, List.append_assoc, run_indentation, run_string hr,
    List.cons_append, List.cons_append, run_mark rfl rfl, run_blank _ rfl, h _ _ hrest]

/-- The members of an object from a key on, to its end. -/
theorem run_members (level : Nat) (key : α → String) {l : List α}
    (h : ∀ a ∈ l, Reads (text a) (value a)) (hne : l ≠ []) {r : Reading}
    (ms : List (String × Json)) {stack : List Frame}
    (hr : ∀ k, r.step (.string k) = some (.colon ms k stack)) (rest : List Char) :
    run r (List.intercalate [',', '\n'] (l.map fun a =>
        Dump.member level (Dump.string (key a), text a))
      ++ '\n' :: (Dump.indentation level ++ '\x7d' :: rest)) =
      run (.after (.object (ms ++ l.map fun a => (key a, value a))) stack) rest := by
  induction l generalizing r ms with
  | nil => exact absurd rfl hne
  | cons a l ih =>
    have hmember {tail : List Char} (htail : Ends tail) :=
      run_member a (hr (key a)) (h a (List.mem_cons_self ..)) level htail
    cases l with
    | nil =>
      rw [List.map_singleton, List.map_singleton, List.intercalate_singleton, hmember,
        run_blank _ rfl, run_indentation, run_mark rfl rfl]
      rfl
    | cons b l =>
      have hrest := ih (fun a ha => h a (List.mem_cons_of_mem _ ha)) (List.cons_ne_nil b l)
        (r := .key (ms ++ [(key a, value a)]) stack) _ fun _ => rfl
      rw [List.map_cons, List.map_cons, List.intercalate_cons_cons, List.append_assoc,
        List.append_assoc, hmember, List.cons_append, List.cons_append, List.nil_append,
        run_mark rfl rfl, run_blank _ rfl]
      · rw [List.append_assoc] at hrest
        exact hrest
      · rfl

theorem reads_object (level : Nat) (key : α → String) {l : List α}
    (h : ∀ a ∈ l, Reads (text a) (value a)) :
    Reads (Dump.object level (l.map fun a => (Dump.string (key a), text a)))
      (.object (l.map fun a => (key a, value a))) := by
  intro stack rest _
  have hopen (tail : List Char) :
      run (.value stack) ('\x7b' :: tail) = run (.firstKey stack) tail := run_mark rfl rfl tail
  cases l with
  | nil => exact (hopen _).trans (run_mark rfl rfl rest)
  | cons a l =>
    have hmembers := run_members level key h (List.cons_ne_nil a l) (r := .firstKey stack) []
      (fun _ => rfl) rest
    rw [Dump.object, if_neg (by simp), List.cons_append, hopen, List.cons_append, run_blank _ rfl,
      List.map_map, List.append_assoc, List.cons_append, List.append_assoc, List.singleton_append]
    exact hmembers

end Object

end Json
end ShareStreaks
