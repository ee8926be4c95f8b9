import Mathlib.Data.List.Dedup
import Mathlib.Data.List.Induction
import ShareStreaks.Proofs.TermTable.Counts
import ShareStreaks.Proofs.Text.Utf8Order

/-!
# Tables made step by step

A table is filled by recording single shares and by setting all the shares of a term at once, in any
order.  What is then found for a term and a year goes back to the latest step that put something there,
unless the shares of the term were replaced later on.

The specification looks back from the end of the list of steps: `Since P Q` says that some step had `P`
and all steps since had `Q`, and `since_append_singleton` is its law for one more step.  One step changes
the answer of `TermTable.point?` in the same way (`TableStep.point?_apply`), so both agree for every list
of steps, by induction on its last one.  What else there is to ask about a table follows from its points.
-/

set_option autoImplicit false

namespace ShareStreaks

/-! ## Looking back -/

/-- Some element of the list has `P`, and every element that comes after it has `Q`. -/
def Since {α : Type} (P Q : α → Prop) (xs : List α) : Prop :=
  ∃ before x after, xs = before ++ x :: after ∧ P x ∧ ∀ y ∈ after, Q y

section Since

variable {α : Type} {P Q : α → Prop}

theorem not_since_nil : ¬ Since P Q [] := by
  rintro ⟨before, x, after, heq, -⟩
  simp at heq

theorem since_append_singleton {xs : List α} {x : α} :
    Since P Q (xs ++ [x]) ↔ P x ∨ Q x ∧ Since P Q xs := by
  constructor
  · rintro ⟨before, y, after, heq, hy, hafter⟩
    -- what comes after is empty if the element is the last one, and ends with it otherwise
    rcases List.eq_nil_or_concat' after with rfl | ⟨after, z, rfl⟩
    · obtain ⟨-, heq⟩ := List.append_inj' heq rfl
      rw [List.singleton_inj.1 heq]
      exact Or.inl hy
    · rw [← List.cons_append, ← List.append_assoc] at heq
      obtain ⟨hxs, heq⟩ := List.append_inj' heq rfl
      rw [List.singleton_inj.1 heq]
      refine Or.inr ⟨hafter z (by simp), before, y, after, hxs, hy, fun w hw => ?_⟩
      exact hafter w (List.mem_append_left _ hw)
  · rintro (hx | ⟨hx, before, y, after, rfl, hy, hafter⟩)
    · exact ⟨xs, x, [], rfl, hx, by simp⟩
    · refine ⟨before, y, after ++ [x], by simp, hy, fun w hw => ?_⟩
      rcases List.mem_append.1 hw with hw | hw
      · exact hafter w hw
      · exact List.mem_singleton.1 hw ▸ hx

end Since

/-! ## Steps -/

/-- A change to a table. -/
inductive TableStep where
  /-- Sets the share of a term in a year. -/
  | record (term : String) (year : Int) (share : Binary64)
  /-- Sets all the shares of a term, in place of those it had. -/
  | replace (term : String) (shares : YearShares)

namespace TableStep

/-- The term that a step is about. -/
def term : TableStep → String
  | record term _ _ => term
  | replace term _ => term

/-- The step does away with what was there for the term. -/
def replaces (term : String) : TableStep → Bool
  | record _ _ _ => false
  | replace t _ => t == term

/-- The share that a step puts in for a term and a year. -/
def shareAt? (term : String) (year : Int) : TableStep → Option Binary64
  | record t y share => if t = term ∧ y = year then some share else none
  | replace t shares => if t = term then shares.find? year else none

/-- Carries out a step. -/
def apply (table : TermTable) : TableStep → TermTable
  | record term year share => table.record term year share
  | replace term shares => table.insert term shares

theorem mem_keys_apply {table : TermTable} {step : TableStep} {term : String} :
    term ∈ (step.apply table).keys ↔ step.term = term ∨ term ∈ table.keys := by
  cases step with
  | record t year share => exact OrderedTable.mem_keys_insert.trans (or_congr_left eq_comm)
  | replace t shares => exact OrderedTable.mem_keys_insert.trans (or_congr_left eq_comm)

/-- What is found after a step is what the step put there, or else what was there before, unless it
was done away with. -/
theorem point?_apply (table : TermTable) (step : TableStep) (term : String) (year : Int) :
    (step.apply table).point? term year = (step.shareAt? term year).or
      (if step.replaces term then none else table.point? term year) := by
  cases step with
  | record t y share => exact TermTable.point?_record table ⟨t, y, share⟩ term year
  | replace t shares =>
    rw [apply, TermTable.point?, OrderedTable.find?_insert]
    by_cases hterm : t = term
    · simp [shareAt?, replaces, hterm]
    · simp [shareAt?, replaces, hterm, Ne.symm hterm, TermTable.point?]

end TableStep

/-! ## Lists of steps -/

namespace TermTable

/-- The table that steps make, one after the other, of the empty one. -/
def ofSteps (steps : List TableStep) : TermTable := steps.foldl TableStep.apply .empty

theorem ofSteps_append_singleton (steps : List TableStep) (step : TableStep) :
    ofSteps (steps ++ [step]) = step.apply (ofSteps steps) := by
  rw [ofSteps, List.foldl_append]
  rfl

theorem mem_keys_ofSteps {steps : List TableStep} {term : String} :
    term ∈ (ofSteps steps).keys ↔ ∃ step ∈ steps, step.term = term := by
  induction steps using List.reverseRecOn with
  | nil => simp [ofSteps, OrderedTable.keys, OrderedTable.empty]
  | append_singleton steps step ih =>
    rw [ofSteps_append_singleton, TableStep.mem_keys_apply, ih]
    simp [or_and_right, exists_or, or_comm]

theorem point?_ofSteps_nil (term : String) (year : Int) :
    (ofSteps []).point? term year = none := rfl

/-- **What is found was put there by the latest step.** -/
theorem point?_ofSteps {steps : List TableStep} {term : String} {year : Int} {share : Binary64} :
    (ofSteps steps).point? term year = some share ↔
      Since (fun s => s.shareAt? term year = some share)
        (fun s => s.replaces term = false ∧ s.shareAt? term year = none) steps := by
  induction steps using List.reverseRecOn with
  | nil => exact iff_of_false (by simp [point?_ofSteps_nil]) not_since_nil
  | append_singleton steps step ih =>
    rw [ofSteps_append_singleton, TableStep.point?_apply, since_append_singleton, ← ih,
      Option.or_eq_some_iff]
    cases step.replaces term with
    | false => simp
    | true => simp

theorem isSome_point?_ofSteps {steps : List TableStep} {term : String} {year : Int} :
    ((ofSteps steps).point? term year).isSome ↔
      Since (fun s => (s.shareAt? term year).isSome) (fun s => s.replaces term = false) steps := by
  induction steps using List.reverseRecOn with
  | nil => exact iff_of_false (by simp [point?_ofSteps_nil]) not_since_nil
  | append_singleton steps step ih =>
    rw [ofSteps_append_singleton, TableStep.point?_apply, since_append_singleton, ← ih,
      Option.isSome_or, Bool.or_eq_true]
    cases step.replaces term with
    | false => simp
    | true => simp

/-- There are as many terms as steps are about. -/
theorem size_ofSteps (steps : List TableStep) :
    (ofSteps steps).size = (steps.map TableStep.term).dedup.length := by
  have hperm : (ofSteps steps).keys.Perm (steps.map TableStep.term).dedup := by
    refine (List.perm_ext_iff_of_nodup (OrderedTable.nodup_keys _) (List.nodup_dedup _)).2 ?_
    intro term
    rw [mem_keys_ofSteps, List.mem_dedup, List.mem_map]
  rw [← hperm.length_eq, OrderedTable.keys, List.length_map]
  rfl

/-- **A table holds what the latest steps put there.**  After any steps on an empty table, there is a
share for a term and a year if some step put one there and no later step replaced the shares of the term,
and it is the share that the latest such step put there.  The table lists each term that a step was about
once, with its years, terms ascending by their bytes and years as numbers.  Where there is no share, zero
is answered.  The terms, and the pairs of a term and a year that have a share, are counted; the range of
the years goes from the least to the greatest that any term has, and there is none exactly if no term has
any year, whatever terms there are. -/
theorem ofSteps_exact (steps : List TableStep) :
    let table := ofSteps steps
    (∀ term year, (table.point? term year).isSome ↔
      Since (fun s => (s.shareAt? term year).isSome) (fun s => s.replaces term = false) steps) ∧
    (∀ term year share, table.point? term year = some share ↔
      Since (fun s => s.shareAt? term year = some share)
        (fun s => s.replaces term = false ∧ s.shareAt? term year = none) steps) ∧
    (∀ term, term ∈ table.keys ↔ ∃ step ∈ steps, step.term = term) ∧
    (∀ term year share, (∃ shares, (term, shares) ∈ table.entries ∧ (year, share) ∈ shares.entries) ↔
      table.point? term year = some share) ∧
    table.keys.Pairwise (fun a b => utf8Bytes a < utf8Bytes b) ∧
    (∀ e ∈ table.entries, e.2.keys.Pairwise (· < ·)) ∧
    (∀ term year, table.share term year = (table.point? term year).getD .zero) ∧
    table.size = (steps.map TableStep.term).dedup.length ∧
    (∃ pairs : List (String × Int), pairs.Nodup ∧ table.pointCount = pairs.length ∧
      ∀ term year, (term, year) ∈ pairs ↔ (table.point? term year).isSome) ∧
    (table.yearRange? = none ↔ table.pointCount = 0) ∧
    ∀ first last, table.yearRange? = some (first, last) ↔
      IsLeast table.years first ∧ IsGreatest table.years last := by
  intro table
  have hbytes : table.keys.Pairwise (fun a b => utf8Bytes a < utf8Bytes b) :=
    table.pairwise_keys.imp utf8Bytes_lt_iff.2
  exact ⟨fun _ _ => isSome_point?_ofSteps, fun _ _ _ => point?_ofSteps, fun _ => mem_keys_ofSteps,
    fun _ _ _ => point?_eq_some_iff.symm, hbytes, fun e _ => e.2.pairwise_keys, table.share_eq,
    size_ofSteps steps, ⟨table.pairs, table.nodup_pairs, table.pointCount_eq, fun _ _ => mem_pairs⟩,
    yearRange?_eq_none_iff, fun _ _ => yearRange?_eq_some_iff⟩

/-- All that was recorded of a term before its shares were replaced is gone, and a term that has no year
counts as a term. -/
theorem ofSteps_exact_replaced :
    let low : Binary64 := .ofBits 0x3FB0000000000000
    let high : Binary64 := .ofBits 0x3FC0000000000000
    let steps : List TableStep := [.record "b" 2001 low, .replace "a" .empty,
      .replace "b" ⟨[(2003, low), (2005, low)], by decide⟩, .record "b" 2005 high]
    let table := ofSteps steps
    table.keys = ["a", "b"] ∧ table.size = 2 ∧ table.pointCount = 2 ∧
    ¬ Since (fun s => (s.shareAt? "b" 2001).isSome) (fun s => s.replaces "b" = false) steps ∧
    Since (fun s => s.shareAt? "b" 2005 = some high)
      (fun s => s.replaces "b" = false ∧ s.shareAt? "b" 2005 = none) steps ∧
    IsLeast table.years 2003 ∧ IsGreatest table.years 2005 := by
  intro low high steps table
  obtain ⟨hpresent, hlatest, -, -, -, -, -, -, -, -, hrange⟩ := ofSteps_exact steps
  refine ⟨by decide, by decide, by decide, ?_, ?_, (hrange 2003 2005).1 (by decide)⟩
  · exact fun hsince => absurd ((hpresent "b" 2001).2 hsince) (by decide)
  · exact (hlatest "b" 2005 high).1 (by decide)

end TermTable
end ShareStreaks
