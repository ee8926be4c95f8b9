import ShareStreaks.Proofs.Selection.FirstMet
import ShareStreaks.Proofs.Streak.Window

/-!
# Thresholds that can never get a term

`shadowed` compares thresholds pairwise, by the two numbers they are made of.  This file shows that
the comparison finds out exactly which thresholds stay empty whatever the table is.

* One threshold covering another means that every term that meets the second meets the first
  (`Threshold.covers_isSome`), since a window that meets the stricter threshold has one for the more
  lenient threshold at its front.
* For the other direction, `YearShares.level` is a series that just meets a threshold: it has no
  more years than the threshold asks for, and no greater share.  What else it meets is exactly what
  covers the threshold (`Threshold.isSome_level_iff`), so it defeats all the other thresholds at
  once.
-/

set_option autoImplicit false

namespace ShareStreaks

/-! ## Covering -/

namespace Threshold

variable {a b : Threshold}

theorem covers_iff : a.covers b = true ↔ a.minShare ≤ b.minShare ∧ a.years ≤ b.years := by
  rw [covers, Bool.and_eq_true, decide_eq_true_eq, decide_eq_true_eq]

theorem covers_refl (a : Threshold) : a.covers a = true :=
  covers_iff.2 ⟨Binary64.le_refl (Binary64.isNaN_of_isFinite a.finite), Nat.le_refl _⟩

theorem MetFrom.of_covers {shares : List Binary64} {i : Nat} (h : b.MetFrom shares i)
    (hc : a.covers b = true) : a.MetFrom shares i := by
  obtain ⟨hshare, hyears⟩ := covers_iff.1 hc
  intro j hj
  obtain ⟨v, hv, hmeets⟩ := h j (by omega)
  exact ⟨v, hv, Binary64.le_trans hshare hmeets⟩

/-- Whatever has a streak for a threshold has one for every threshold that covers it. -/
theorem covers_isSome (hc : a.covers b = true) {s : YearShares} (h : (s.streak? b).isSome = true) :
    (s.streak? a).isSome = true := by
  obtain ⟨i, hi⟩ := YearShares.isSome_streak?_iff.1 h
  exact YearShares.isSome_streak?_iff.2 ⟨i, hi.of_covers hc⟩

theorem covers_meets (hc : a.covers b = true) {table : TermTable} {term : String}
    (h : table.meets b term = true) : table.meets a term = true := by
  obtain ⟨shares, c, hfind, hb⟩ := TermTable.meets_iff.1 h
  have hsome : (shares.streak? a).isSome = true :=
    covers_isSome hc (Option.isSome_iff_exists.2 ⟨c, hb⟩)
  rw [TermTable.meets, hfind, Option.bind_some]
  exact hsome

end Threshold

/-! ## A series that only just meets a threshold -/

/-- The least year that 32 bits hold. -/
def leastYear : Int := -2 ^ 31

/-- The same share in so many years from the least year on. -/
def YearShares.level (share : Binary64) (years : Nat) : YearShares where
  entries := (List.range years).map fun k : Nat => (leastYear + (k : Int), share)
  ascending := by
    rw [List.pairwise_map]
    refine List.pairwise_lt_range.imp ?_
    intro k l hkl
    show leastYear + (k : Int) < leastYear + (l : Int)
    omega

theorem YearShares.values_level (share : Binary64) (years : Nat) :
    (YearShares.level share years).values = List.replicate years share := by
  rw [YearShares.values, YearShares.level, List.map_map]
  simp only [Function.comp_def, List.map_const', List.length_range]

/-- The years are years that 32 bits hold. -/
def YearShares.YearsFit (s : YearShares) : Prop :=
  ∀ year ∈ s.keys, leastYear ≤ year ∧ year < -leastYear

theorem YearShares.yearsFit_level (share : Binary64) {years : Nat} (h : years ≤ 2 ^ 32) :
    (YearShares.level share years).YearsFit := by
  intro year hyear
  rw [OrderedTable.keys, YearShares.level, List.map_map] at hyear
  obtain ⟨k, hk, rfl⟩ := List.mem_map.1 hyear
  have hk' : k < years := List.mem_range.1 hk
  simp only [Function.comp_apply, leastYear]
  omega

/-- The years of a table are years that 32 bits hold. -/
def TermTable.YearsFit (table : TermTable) : Prop :=
  ∀ e ∈ table.entries, ∀ year ∈ e.2.keys, leastYear ≤ year ∧ year < -leastYear

/-- The table of one term. -/
def TermTable.single (term : String) (shares : YearShares) : TermTable where
  entries := [(term, shares)]
  ascending := List.pairwise_singleton _ _

theorem TermTable.meets_single {term : String} {shares : YearShares} {t : Threshold} :
    (TermTable.single term shares).meets t term = (shares.streak? t).isSome :=
  TermTable.meets_of_mem (e := (term, shares)) (List.mem_singleton.2 rfl)

theorem TermTable.yearsFit_level (term : String) (share : Binary64) {years : Nat}
    (h : years ≤ 2 ^ 32) : (TermTable.single term (.level share years)).YearsFit := by
  intro e he
  rw [List.mem_singleton.1 he]
  exact YearShares.yearsFit_level share h

namespace Threshold

variable {a b : Threshold}

theorem metFrom_replicate_iff {n i : Nat} {v : Binary64} :
    a.MetFrom (List.replicate n v) i ↔ i + a.years ≤ n ∧ a.minShare ≤ v := by
  constructor
  · intro h
    obtain ⟨w, hw, hmeets⟩ := h 0 a.years_pos
    have hle := h.add_years_le
    rw [List.length_replicate] at hle
    rw [List.getElem?_replicate, if_pos (by have := a.years_pos; omega), Option.some_inj] at hw
    exact ⟨hle, hw ▸ hmeets⟩
  · rintro ⟨hle, hmeets⟩ j hj
    exact ⟨v, by rw [List.getElem?_replicate, if_pos (by omega)], hmeets⟩

/-- **The level series of a threshold meets exactly the thresholds that cover it.** -/
theorem isSome_level_iff :
    ((YearShares.level b.minShare b.years).streak? a).isSome = true ↔ a.covers b = true := by
  rw [YearShares.isSome_streak?_iff, YearShares.values_level, covers_iff]
  simp only [metFrom_replicate_iff]
  constructor
  · rintro ⟨i, hle, hshare⟩
    exact ⟨hshare, by omega⟩
  · rintro ⟨hshare, hyears⟩
    exact ⟨0, by omega, hshare⟩

end Threshold

/-! ## The indices -/

theorem mem_shadowingsAfter_cons {earlier ts : List Threshold} {t : Threshold} {i : Nat} :
    i ∈ (shadowingsAfter earlier (t :: ts)).map Shadowing.index ↔
      (i = earlier.length ∧ ∃ e ∈ earlier, e.covers t = true) ∨
        i ∈ (shadowingsAfter (earlier ++ [t]) ts).map Shadowing.index := by
  rw [shadowingsAfter]
  cases hfind : earlier.find? fun e => e.covers t with
  | none =>
    refine ⟨Or.inr, fun h => h.resolve_left ?_⟩
    rintro ⟨-, e, he, hcovers⟩
    exact absurd hcovers (List.find?_eq_none.1 hfind e he)
  | some e =>
    have he : ∃ e ∈ earlier, e.covers t = true :=
      ⟨e, List.mem_of_find?_eq_some hfind, List.find?_some (p := (Threshold.covers · t)) hfind⟩
    rw [List.map_cons, List.mem_cons]
    exact or_congr_left ⟨fun hi => ⟨hi, he⟩, fun h => h.1⟩

/-- The indices found are those of covered thresholds, counted on from the thresholds before the
list, which are among those that cover. -/
theorem mem_shadowingsAfter_iff {earlier ts : List Threshold} {i : Nat} :
    i ∈ (shadowingsAfter earlier ts).map Shadowing.index ↔
      ∃ k t, i = earlier.length + k ∧ ts[k]? = some t ∧
        ∃ e ∈ earlier ++ ts.take k, e.covers t = true := by
  induction ts generalizing earlier with
  | nil => simp [shadowingsAfter]
  | cons t ts ih =>
    rw [mem_shadowingsAfter_cons, ih]
    simp only [List.length_append, List.length_singleton, List.append_assoc, List.singleton_append]
    constructor
    · rintro (⟨hi, e, he, hcovers⟩ | ⟨k, u, hi, hu, hcovered⟩)
      · exact ⟨0, t, hi, rfl, e, List.mem_append_left _ he, hcovers⟩
      · exact ⟨k + 1, u, by omega, hu, hcovered⟩
    · rintro ⟨k, u, hi, hu, hcovered⟩
      cases k with
      | zero =>
        rw [List.getElem?_cons_zero, Option.some_inj] at hu
        rw [List.take_zero, List.append_nil] at hcovered
        exact Or.inl ⟨hi, hu ▸ hcovered⟩
      | succ k => exact Or.inr ⟨k, u, by omega, hu, hcovered⟩

theorem pairwise_shadowingsAfter (earlier ts : List Threshold) :
    ((shadowingsAfter earlier ts).map Shadowing.index).Pairwise (· < ·) := by
  induction ts generalizing earlier with
  | nil => exact List.Pairwise.nil
  | cons t ts ih =>
    rw [shadowingsAfter]
    split
    · rw [List.map_cons, List.pairwise_cons]
      refine ⟨fun i hi => ?_, ih _⟩
      obtain ⟨k, -, rfl, -⟩ := mem_shadowingsAfter_iff.1 hi
      simp only [List.length_append, List.length_singleton]
      omega
    · exact ih _

/-- An index is found exactly if an earlier threshold covers the one at it. -/
theorem mem_shadowed_iff {ts : List Threshold} {i : Nat} :
    i ∈ shadowed ts ↔ ∃ t, ts[i]? = some t ∧ ∃ e ∈ ts.take i, e.covers t = true := by
  rw [shadowed, shadowings, mem_shadowingsAfter_iff]
  simp only [List.length_nil, Nat.zero_add, List.nil_append]
  constructor
  · rintro ⟨k, t, rfl, h⟩
    exact ⟨t, h⟩
  · rintro ⟨t, h⟩
    exact ⟨i, t, rfl, h⟩

/-! ## Outcomes -/

theorem TermTable.remaining_eq_nil {table : TermTable} {earlier : List Threshold} {t : Threshold}
    (h : ∃ e ∈ earlier, e.covers t = true) : table.remaining earlier t = [] := by
  obtain ⟨e, he, hcovers⟩ := h
  rw [← List.map_eq_nil_iff (f := Finding.term), List.eq_nil_iff_forall_not_mem]
  intro term hterm
  obtain ⟨hmeets, hearlier⟩ := TermTable.mem_terms_remaining.1 hterm
  have hmeets' := Threshold.covers_meets hcovers hmeets
  rw [hearlier e he] at hmeets'
  exact Bool.false_ne_true hmeets'

/-- **The thresholds found to be shadowed are exactly those that can never get a term.**  Whatever
the table is, a threshold at one of the indices is given nothing.  For a threshold at any other
index there is a table of years in 32 bits from which it is given something, unless it asks for more
years than there are.  The indices are in ascending order. -/
theorem shadowed_exact (ts : List Threshold) :
    (shadowed ts).Pairwise (· < ·) ∧
    (∀ i ∈ shadowed ts, ∀ table : TermTable,
      ∃ o, (Selection.run table ts).outcomes[i]? = some o ∧ o.findings = []) ∧
    (∀ i t, ts[i]? = some t → i ∉ shadowed ts → t.years ≤ 2 ^ 32 →
      ∃ table : TermTable, table.YearsFit ∧
        ∃ o, (Selection.run table ts).outcomes[i]? = some o ∧ o.findings ≠ []) := by
  refine ⟨pairwise_shadowingsAfter [] ts, fun i hi table => ?_, fun i t ht hi hyears => ?_⟩
  · obtain ⟨t, ht, hcovered⟩ := mem_shadowed_iff.1 hi
    refine ⟨Outcome.mk t (table.remaining (ts.take i) t), ?_, TermTable.remaining_eq_nil hcovered⟩
    rw [Selection.getElem?_run, ht, Option.map_some]
  · let table := TermTable.single "a" (.level t.minShare t.years)
    have hmeets (e : Threshold) : table.meets e "a" = true ↔ e.covers t = true := by
      rw [TermTable.meets_single, Threshold.isSome_level_iff]
    have hterm : "a" ∈ (table.remaining (ts.take i) t).map Finding.term := by
      refine TermTable.mem_terms_remaining.2 ⟨(hmeets t).2 t.covers_refl, fun e he => ?_⟩
      rw [← Bool.not_eq_true, hmeets]
      exact fun hcovers => hi (mem_shadowed_iff.2 ⟨t, ht, e, he, hcovers⟩)
    refine ⟨table, TermTable.yearsFit_level "a" t.minShare hyears,
      Outcome.mk t (table.remaining (ts.take i) t), ?_, ?_⟩
    · rw [Selection.getElem?_run, ht, Option.map_some]
    · intro (hnil : table.remaining (ts.take i) t = [])
      rw [hnil] at hterm
      exact absurd hterm (by simp)

/-- Asking for no share at all for three years covers asking for a negative zero as long, and
neither covers asking for it for two years only. -/
theorem shadowed_exact_zeros :
    let ts : List Threshold := [⟨.zero, 3, by decide, by decide, by decide⟩,
      ⟨Binary64.zero.negated, 3, by decide, by decide, by decide⟩,
      ⟨Binary64.zero.negated, 2, by decide, by decide, by decide⟩]
    shadowed ts = [1] ∧
    (∀ table : TermTable, ∃ o, (Selection.run table ts).outcomes[1]? = some o ∧ o.findings = []) ∧
    ∃ table : TermTable, table.YearsFit ∧
      ∃ o, (Selection.run table ts).outcomes[2]? = some o ∧ o.findings ≠ [] := by
  intro ts
  have hshadowed : shadowed ts = [1] := by decide
  have h := shadowed_exact ts
  refine ⟨hshadowed, h.2.1 1 ?_, h.2.2 2 _ rfl ?_ (by decide)⟩
  · rw [hshadowed]; decide
  · rw [hshadowed]; decide

end ShareStreaks
