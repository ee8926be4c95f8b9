import Mathlib.Data.List.Sort
import ShareStreaks.Proofs.Streak.Ranking

/-!
# Where a finding stands in a ranking

A ranking is sorted by the minima of its findings, and the sort is stable, so that findings whose
minima have the same bits stay in the order of the table, which is that of their terms.  Both together
are one strict order on findings, `Finding.Precedes`, in which every ranking is ascending
(`TermTable.pairwise_ranking`).  Where two findings stand to each other is therefore settled by the two
alone, whatever else is ranked with them: a ranking all of whose findings are in another one is this
other one with some left out (`TermTable.ranking_sublist`).
-/

set_option autoImplicit false

namespace ShareStreaks

/-- The finding with the greater minimum comes first, and of two with the same minimum, bit for bit,
the one whose term is smaller. -/
def Finding.Precedes (a b : Finding) : Prop :=
  b.bounds.least.rank < a.bounds.least.rank ∨
    b.bounds.least.rank = a.bounds.least.rank ∧ a.term < b.term

namespace Finding

instance : Std.Irrefl Precedes where
  irrefl a := by
    rintro (hrank | ⟨-, hterm⟩)
    · exact Int.lt_irrefl _ hrank
    · exact Std.lt_irrefl hterm

instance : Std.Antisymm Precedes where
  antisymm a b := by
    rintro (hrank | ⟨heq, hterm⟩) (hrank' | ⟨heq', hterm'⟩)
    · omega
    · omega
    · omega
    · exact absurd (Std.lt_trans hterm hterm') Std.lt_irrefl

theorem before_iff {a b : Finding} :
    a.before b = true ↔ b.bounds.least.rank ≤ a.bounds.least.rank := by
  simp [before]

theorem before_trans (a b c : Finding) (hab : a.before b = true) (hbc : b.before c = true) :
    a.before c = true := by
  rw [before_iff] at hab hbc ⊢
  omega

theorem before_total (a b : Finding) : (a.before b || b.before a) = true := by
  rw [Bool.or_eq_true, before_iff, before_iff]
  omega

/-- Sorting findings whose terms ascend puts them in order: the first of them goes behind those with
a greater minimum and before all others, the rest being sorted already. -/
theorem pairwise_mergeSort_before {fs : List Finding}
    (h : fs.Pairwise fun a b => a.term < b.term) : (fs.mergeSort before).Pairwise Precedes := by
  induction fs with
  | nil => simp
  | cons f fs ih =>
    rw [List.pairwise_cons] at h
    obtain ⟨front, back, hsort, hrest, hfront⟩ :=
      List.mergeSort_cons before_trans before_total f fs
    have hsorted := List.pairwise_mergeSort before_trans before_total (f :: fs)
    have hih := ih h.2
    rw [hrest, List.pairwise_append] at hih
    rw [hsort, List.pairwise_append, List.pairwise_cons] at hsorted
    have hbehind : ∀ g ∈ front, g.Precedes f := by
      intro g hg
      have hnot : ¬ f.before g = true := by simpa using hfront g hg
      rw [before_iff] at hnot
      exact Or.inl (by omega)
    have hahead : ∀ g ∈ back, f.Precedes g := by
      intro g hg
      have hle := before_iff.1 (hsorted.2.1.1 g hg)
      have hmem : g ∈ fs.mergeSort before := by
        rw [hrest]
        exact List.mem_append_right _ hg
      by_cases heq : g.bounds.least.rank = f.bounds.least.rank
      · exact Or.inr ⟨heq, h.1 g (List.mem_mergeSort.1 hmem)⟩
      · exact Or.inl (by omega)
    rw [hsort, List.pairwise_append, List.pairwise_cons]
    refine ⟨hih.1, ⟨hahead, hih.2.1⟩, ?_⟩
    intro g hg g' hg'
    rcases List.mem_cons.1 hg' with rfl | hg'
    · exact hbehind g hg
    · exact hih.2.2 g hg g' hg'

end Finding

namespace TermTable

variable (table : TermTable) (t : Threshold)

theorem pairwise_findings : (table.findings t).Pairwise fun a b => a.term < b.term := by
  exact List.pairwise_map.1 (table.pairwise_keys.sublist (terms_findings_sublist table t))

/-- **A ranking is in order.** -/
theorem pairwise_ranking : (table.ranking t).Pairwise Finding.Precedes :=
  Finding.pairwise_mergeSort_before (pairwise_findings table t)

variable {table t}

/-- **What two rankings have in common is in the same order in both.** -/
theorem ranking_sublist {table' : TermTable} {t' : Threshold}
    (h : table.ranking t ⊆ table'.ranking t') :
    (table.ranking t).Sublist (table'.ranking t') := by
  have hsorted := pairwise_ranking table t
  exact List.sublist_of_subperm_of_pairwise (List.subperm_of_subset hsorted.nodup h) hsorted
    (pairwise_ranking table' t')

end TermTable
end ShareStreaks
