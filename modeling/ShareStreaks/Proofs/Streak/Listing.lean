import ShareStreaks.Proofs.Binary64.TotalOrder
import ShareStreaks.Proofs.Streak.Order
import ShareStreaks.Proofs.Streak.Window
import ShareStreaks.Proofs.Text.Utf8Order

/-!
# What a ranking lists

A ranking lists every term that meets the threshold once, with the bounds of the term's streak, and no
other term.  The greatest minimum stands first, in the order of all values, so that `-0.0` comes after
`0.0`; minima with the same bits leave the terms in the order of their bytes in UTF-8.

`Finding.ListedBefore` is this order in these words, and it is the one that rankings are sorted by
(`Finding.precedes_iff`).  `TermTable.ranking_exact` has both the contents and the order.
-/

set_option autoImplicit false

namespace ShareStreaks

/-- The finding with the greater minimum in the order of all values comes first, and of two whose
minima have the same bits the one whose term has the lower bytes. -/
def Finding.ListedBefore (a b : Finding) : Prop :=
  b.bounds.least.TotallyBelow a.bounds.least ∨
    b.bounds.least.toBits = a.bounds.least.toBits ∧ utf8Bytes a.term < utf8Bytes b.term

theorem Binary64.toBits_inj {x y : Binary64} : x.toBits = y.toBits ↔ x = y := by
  refine ⟨fun h => ?_, congrArg toBits⟩
  rw [← ofBits_toBits x, h, ofBits_toBits]

theorem Finding.precedes_iff {a b : Finding} : a.Precedes b ↔ a.ListedBefore b := by
  have hbits : b.bounds.least.rank = a.bounds.least.rank ↔
      b.bounds.least.toBits = a.bounds.least.toBits := by
    rw [Binary64.toBits_inj]
    exact ⟨Binary64.rank_inj, congrArg Binary64.rank⟩
  rw [Precedes, ListedBefore, Binary64.rank_lt_iff, hbits, utf8Bytes_lt_iff]

namespace TermTable

variable {table : TermTable} {t : Threshold}

/-- The bounds are bounds of shares that meet the threshold. -/
theorem bounds_of_mem_ranking {f : Finding} (h : f ∈ table.ranking t) :
    t.minShare ≤ f.bounds.least ∧ f.bounds.least ≤ f.bounds.greatest := by
  obtain ⟨shares, -, hb⟩ := mem_ranking.1 h
  have hanswers := shares.streak?_answers t
  rw [hb] at hanswers
  obtain ⟨i, hmet, -, hbounds⟩ := hanswers
  exact ⟨hmet.le_of_mem_window hbounds.least_mem, hbounds.least_le _ hbounds.greatest_mem⟩

/-- A NaN meets no threshold. -/
theorem isNaN_bounds_of_mem_ranking {f : Finding} (h : f ∈ table.ranking t) :
    f.bounds.least.isNaN = false ∧ f.bounds.greatest.isNaN = false :=
  ⟨(bounds_of_mem_ranking h).2.1, (bounds_of_mem_ranking h).2.2.1⟩

theorem pairwise_listedBefore_ranking (table : TermTable) (t : Threshold) :
    (table.ranking t).Pairwise Finding.ListedBefore :=
  (pairwise_ranking table t).imp Finding.precedes_iff.1

theorem nodup_ranking (table : TermTable) (t : Threshold) : (table.ranking t).Nodup :=
  (pairwise_ranking table t).nodup

/-- **A ranking lists the terms that meet the threshold, each once, the greatest minimum first.**  A
finding is in it once if the term is in the table and has these bounds for its streak, and not at all
otherwise; so a term is in it once if it meets the threshold.  The findings stand in the order of their
minima among all values, from above, and those whose minima have the same bits in the order of the
bytes of their terms.  No bound is a NaN. -/
theorem ranking_exact (table : TermTable) (t : Threshold) :
    (∀ f : Finding, (table.ranking t).count f =
      if (table.find? f.term).bind (YearShares.streak? · t) = some f.bounds then 1 else 0) ∧
    (∀ term, ((table.ranking t).map Finding.term).count term =
      if table.meets t term = true then 1 else 0) ∧
    (table.ranking t).Pairwise Finding.ListedBefore ∧
    ∀ f ∈ table.ranking t, f.bounds.least.isNaN = false ∧ f.bounds.greatest.isNaN = false := by
  refine ⟨fun f => ?_, fun term => ?_, pairwise_listedBefore_ranking table t,
    fun f => isNaN_bounds_of_mem_ranking⟩
  · rw [(nodup_ranking table t).count]
    simp only [mem_ranking, Option.bind_eq_some_iff]
  · rw [(nodup_terms_ranking table t).count]
    simp only [mem_terms_ranking]

/-- Zeros of both signs and two NaNs: the negative zeros come after the positive one and in the order
of their terms, and a NaN only breaks a streak. -/
theorem ranking_exact_zeros :
    let negativeZero := Binary64.zero.negated
    let half : Binary64 := .ofBits 0x3FE0000000000000
    let table : TermTable := ⟨[("a", ⟨[(2016, half)], by decide⟩), ("b", ⟨[(2016, .zero)], by decide⟩),
      ("c", ⟨[(2016, .notANumber), (2017, negativeZero)], by decide⟩),
      ("z", ⟨[(2016, negativeZero)], by decide⟩), ("é", ⟨[(2016, .notANumber)], by decide⟩)],
      by decide⟩
    let t : Threshold := ⟨negativeZero, 1, by decide, by decide, by decide⟩
    let listed : List Finding := [⟨"a", ⟨half, half⟩⟩, ⟨"b", ⟨.zero, .zero⟩⟩,
      ⟨"c", ⟨negativeZero, negativeZero⟩⟩, ⟨"z", ⟨negativeZero, negativeZero⟩⟩]
    table.ranking t = listed ∧ listed.Pairwise Finding.ListedBefore ∧
      ∀ f ∈ listed, f.bounds.least.isNaN = false ∧ f.bounds.greatest.isNaN = false := by
  intro negativeZero half table t listed
  have hlisted : table.ranking t = listed := ranking_eq_findings (by decide)
  obtain ⟨-, -, hpairwise, hnumbers⟩ := ranking_exact table t
  rw [hlisted] at hpairwise hnumbers
  exact ⟨hlisted, hpairwise, hnumbers⟩

end TermTable
end ShareStreaks
