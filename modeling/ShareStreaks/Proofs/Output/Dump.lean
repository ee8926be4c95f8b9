import ShareStreaks.Proofs.Json.Written
import ShareStreaks.Proofs.OrderedTable
import ShareStreaks.Proofs.Text.Utf8Order

/-!
# The dump says everything but the shares that are not finite

`Binary64.shown` is what the dump keeps of a share, and `TermTable.shown` what it keeps of a table.  A
JSON reader finds exactly this in the dump (`terms?_read_text`), and the dump depends on nothing else.
So two tables have one dump exactly if they look alike, and this is spelled out in `text_exact`.
-/

set_option autoImplicit false

namespace ShareStreaks

/-! ## What is kept -/

/-- A share, unless it is not finite. -/
def Binary64.shown (x : Binary64) : Option Binary64 := if x.isFinite then some x else none

def YearShares.shown (s : YearShares) : List (Int × Option Binary64) :=
  s.entries.map fun e => (e.1, e.2.shown)

def TermTable.shown (t : TermTable) : List (String × List (Int × Option Binary64)) :=
  t.entries.map fun e => (e.1, YearShares.shown e.2)

theorem Binary64.shown_eq_iff {x y : Binary64} :
    x.shown = y.shown ↔ x.toBits = y.toBits ∨ (x.isFinite = false ∧ y.isFinite = false) := by
  have hbits : x.toBits = y.toBits ↔ x = y :=
    ⟨fun h => by rw [← ofBits_toBits x, h, ofBits_toBits], congrArg toBits⟩
  rw [hbits, shown, shown]
  cases hx : x.isFinite <;> cases hy : y.isFinite <;>
    simp only [if_true, if_false, Bool.false_eq_true, Bool.true_eq_false, Option.some_inj,
      reduceCtorEq, and_self, and_false, false_and, or_false, or_true, false_iff]
  all_goals
    rintro rfl
    rw [hx] at hy
    exact Bool.noConfusion hy

/-! ## A table in a JSON value -/

namespace Json

/-- What is said of a share. -/
def share? : Json → Option (Option Binary64)
  | .number x => some (some x)
  | .null => some none
  | _ => none

/-- A year in digits. -/
def year? (s : String) : Option Int :=
  let r := splitSign s.toList
  if r.2.isEmpty || !r.2.all Char.isDigit then none
  else some (if r.1 then -ofDigits r.2 else ofDigits r.2)

def members? : Json → Option (List (String × Json))
  | .object ms => some ms
  | _ => none

/-- The years of a term, in the order of the text. -/
def years? (v : Json) : Option (List (Int × Option Binary64)) := do
  (← v.members?).mapM fun m => do return (← year? m.1, ← m.2.share?)

/-- The terms with their years, in the order of the text. -/
def terms? (v : Json) : Option (List (String × List (Int × Option Binary64))) := do
  (← v.members?).mapM fun m => do return (m.1, ← m.2.years?)

theorem share?_ofShare (x : Binary64) : (ofShare x).share? = some x.shown := by
  rw [ofShare, Binary64.shown]
  split <;> rfl

theorem year?_signedDigits (year : Int) :
    year? (String.ofList (signedDigits year)) = some year := by
  have hempty := List.isEmpty_eq_false_iff.2 (digits_ne_nil year.natAbs)
  have hall : (digits year.natAbs).all Char.isDigit = true :=
    List.all_eq_true.2 (isDigits_digits year.natAbs)
  simp only [year?, String.toList_ofList, splitSign_signedDigits, hempty, hall, ofDigits_digits]
  exact congrArg some (ite_neg_natAbs year)

/-! ## The value of a dump -/

def ofYears (s : YearShares) : Json :=
  .object (s.entries.map fun e => (String.ofList (signedDigits e.1), ofShare e.2))

def ofTable (t : TermTable) : Json := .object (t.entries.map fun e => (e.1, ofYears e.2))

theorem years?_ofYears (s : YearShares) : (ofYears s).years? = some s.shown := by
  rw [years?, ofYears, members?, Option.bind_eq_bind, Option.bind_some, List.mapM_map,
    YearShares.shown, ← Option.pure_def, ← List.mapM_pure]
  refine congrArg (List.mapM · s.entries) (funext fun e => ?_)
  simp only [Function.comp_apply, year?_signedDigits, share?_ofShare, Option.bind_eq_bind,
    Option.bind_some]

theorem terms?_ofTable (t : TermTable) : (ofTable t).terms? = some t.shown := by
  rw [terms?, ofTable, members?, Option.bind_eq_bind, Option.bind_some, List.mapM_map,
    TermTable.shown, ← Option.pure_def, ← List.mapM_pure]
  refine congrArg (List.mapM · t.entries) (funext fun e => ?_)
  simp only [Function.comp_apply, years?_ofYears, Option.bind_eq_bind, Option.bind_some]

theorem stringChar_of_le {c : Char} (h : 0x20 ≤ c.toNat) (hquote : c ≠ '"')
    (hbackslash : c ≠ '\\') : Dump.stringChar c = [c] := by
  have hne {d : Char} (hd : d.toNat < 0x20) : c ≠ d := by
    rintro rfl
    omega
  rw [Dump.stringChar, if_neg hquote, if_neg hbackslash, if_neg (hne (by decide)),
    if_neg (hne (by decide)), if_neg (hne (by decide)), if_neg (hne (by decide)),
    if_neg (hne (by decide)), if_neg (Nat.not_lt.2 h)]

theorem flatMap_stringChar_of_isDigits {cs : List Char} (h : IsDigits cs) :
    cs.flatMap Dump.stringChar = cs := by
  induction cs with
  | nil => rfl
  | cons c cs ih =>
    have hdigit := h c (List.mem_cons_self ..)
    have hchar : Dump.stringChar c = [c] := by
      refine stringChar_of_le ?_ ?_ ?_
      · have hzero : '0'.toNat = 48 := rfl
        rw [Char.isDigit_iff_toNat] at hdigit
        omega
      · rintro rfl; exact absurd hdigit (by decide)
      · rintro rfl; exact absurd hdigit (by decide)
    rw [List.flatMap_cons, hchar, ih fun d hd => h d (List.mem_cons_of_mem c hd),
      List.singleton_append]

/-- The key of a year is a string of its digits. -/
theorem yearKey_eq (year : Int) :
    Dump.yearKey year = Dump.string (String.ofList (signedDigits year)) := by
  rw [Dump.yearKey, Dump.string, String.toList_ofList, signedDigits]
  split
  · rw [List.flatMap_cons, flatMap_stringChar_of_isDigits (isDigits_digits _)]
    rfl
  · rw [flatMap_stringChar_of_isDigits (isDigits_digits _)]

theorem reads_yearShares (s : YearShares) : Reads (Dump.yearShares s) (ofYears s) := by
  simp only [Dump.yearShares, yearKey_eq]
  exact reads_object 1 (fun e : Int × Binary64 => String.ofList (signedDigits e.1))
    fun e _ => reads_written e.2

/-- **A dump is a JSON text**, and its value is that of the table. -/
theorem read_text (t : TermTable) : read (Dump.text t).toList = some (ofTable t) := by
  have hobject := reads_object 0 (fun e : String × YearShares => e.1) (l := t.entries)
    fun e _ => reads_yearShares e.2
  rw [Dump.text, String.toList_ofList]
  exact (hobject [] ['\n'] rfl).trans rfl

theorem terms?_read_text (t : TermTable) :
    (read (Dump.text t).toList).bind terms? = some t.shown := by
  rw [read_text, Option.bind_some, terms?_ofTable]

end Json

/-! ## The text of a dump -/

namespace Dump

theorem written_shown (x : Binary64) :
    (x.shown.getD .notANumber).written jsonStyle = x.written jsonStyle := by
  rw [Binary64.shown]
  split
  · rfl
  · rename_i h
    exact (Json.written_of_not_isFinite h).symm

/-- The dump depends on what it keeps alone. -/
theorem text_eq (t : TermTable) : text t = String.ofList (object 0 (t.shown.map fun e =>
    (string e.1, object 1 (e.2.map fun f =>
      (yearKey f.1, (f.2.getD .notANumber).written jsonStyle)))) ++ ['\n']) := by
  simp only [text, yearShares, TermTable.shown, YearShares.shown, List.map_map, Function.comp_def,
    written_shown]

theorem text_eq_iff {a b : TermTable} : text a = text b ↔ a.shown = b.shown := by
  refine ⟨fun h => ?_, fun h => by rw [text_eq, h, ← text_eq]⟩
  rw [← Option.some_inj, ← Json.terms?_read_text, h, Json.terms?_read_text]

/-- **A dump loses nothing but the shares that are not finite.**  Two tables have one dump exactly if
they have the same terms, these have the same years, and the two shares of each year have the same bits
or are both not finite.  A JSON reader finds the terms of a table in the order of their bytes in UTF-8,
the years of each in ascending order, and every finite share with all its bits. -/
theorem text_exact :
    (∀ a b : TermTable, text a = text b ↔ a.keys = b.keys ∧
      ∀ term s t, a.find? term = some s → b.find? term = some t → s.keys = t.keys ∧
        ∀ year x y, s.find? year = some x → t.find? year = some y →
          x.toBits = y.toBits ∨ (x.isFinite = false ∧ y.isFinite = false)) ∧
    ∀ t : TermTable,
      (Json.read (text t).toList).bind Json.terms? = some (t.entries.map fun (term, s) =>
        (term, s.entries.map fun (year, x) => (year, if x.isFinite then some x else none))) ∧
      (t.keys.map utf8Bytes).Pairwise (· < ·) ∧ ∀ e ∈ t.entries, e.2.keys.Pairwise (· < ·) := by
  refine ⟨fun a b => ?_, fun t => ⟨Json.terms?_read_text t, ?_, fun e _ => ?_⟩⟩
  · rw [text_eq_iff, TermTable.shown, TermTable.shown, OrderedTable.map_entries_eq_iff]
    simp only [YearShares.shown, OrderedTable.map_entries_eq_iff, Binary64.shown_eq_iff]
  · rw [OrderedTable.keys, List.map_map, List.pairwise_map]
    exact t.ascending.imp utf8Bytes_lt_iff.2
  · rw [OrderedTable.keys, List.pairwise_map]
    exact e.2.ascending

example : text ⟨[("\"\n", ⟨[(-1, .notANumber), (2020, .zero)], by decide⟩)], by decide⟩ =
    "\x7b\n  \"\\\"\\n\": \x7b\n    \"-1\": null,\n    \"2020\": 0.0\n  \x7d\n\x7d\n" := by
  decide +kernel

end Dump
end ShareStreaks
