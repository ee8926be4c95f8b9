import ShareStreaks.Proofs.OrderedTable
import ShareStreaks.Streak

/-!
# Who meets a threshold

A ranking holds one finding for each term of the table that meets the threshold, with the bounds of
the term's streak, and nothing else.  `TermTable.meets` asks the same of one term, by looking it up.
-/

set_option autoImplicit false

namespace ShareStreaks
namespace TermTable

/-- The term is in the table, and its shares have a streak for the threshold. -/
def meets (table : TermTable) (t : Threshold) (term : String) : Bool :=
  ((table.find? term).bind fun shares => shares.streak? t).isSome

variable {table : TermTable} {t : Threshold}

theorem meets_iff {term : String} :
    table.meets t term = true ↔
      ∃ shares b, table.find? term = some shares ∧ shares.streak? t = some b := by
  rw [meets, Option.isSome_iff_exists]
  simp only [Option.bind_eq_some_iff]
  constructor
  · rintro ⟨b, shares, hfind, hb⟩
    exact ⟨shares, b, hfind, hb⟩
  · rintro ⟨shares, b, hfind, hb⟩
    exact ⟨b, shares, hfind, hb⟩

theorem meets_of_mem {e : String × YearShares} (h : e ∈ table.entries) :
    table.meets t e.1 = (e.2.streak? t).isSome := by
  rw [meets, OrderedTable.find?_eq_some_iff.2 h, Option.bind_some]

theorem mem_findings {f : Finding} :
    f ∈ table.findings t ↔
      ∃ shares, table.find? f.term = some shares ∧ shares.streak? t = some f.bounds := by
  rw [findings, List.mem_filterMap]
  constructor
  · rintro ⟨⟨term, shares⟩, hmem, hf⟩
    obtain ⟨b, hb, rfl⟩ := Option.map_eq_some_iff.1 hf
    exact ⟨shares, OrderedTable.find?_eq_some_iff.2 hmem, hb⟩
  · rintro ⟨shares, hfind, hb⟩
    refine ⟨(f.term, shares), OrderedTable.find?_eq_some_iff.1 hfind, ?_⟩
    simp only [hb, Option.map_some]

theorem ranking_perm (table : TermTable) (t : Threshold) :
    (table.ranking t).Perm (table.findings t) :=
  List.mergeSort_perm _ _

/-- Findings that are in order already are left as they are. -/
theorem ranking_eq_findings (h : (table.findings t).Pairwise fun a b => a.before b = true) :
    table.ranking t = table.findings t :=
  List.mergeSort_of_pairwise h

theorem mem_ranking {f : Finding} :
    f ∈ table.ranking t ↔
      ∃ shares, table.find? f.term = some shares ∧ shares.streak? t = some f.bounds := by
  rw [(ranking_perm table t).mem_iff, mem_findings]

/-- The terms of a ranking are those that meet the threshold. -/
theorem mem_terms_ranking {term : String} :
    term ∈ (table.ranking t).map Finding.term ↔ table.meets t term = true := by
  rw [List.mem_map, meets_iff]
  constructor
  · rintro ⟨f, hf, rfl⟩
    obtain ⟨shares, hfind, hb⟩ := mem_ranking.1 hf
    exact ⟨shares, f.bounds, hfind, hb⟩
  · rintro ⟨shares, b, hfind, hb⟩
    exact ⟨⟨term, b⟩, mem_ranking.2 ⟨shares, hfind, hb⟩, rfl⟩

theorem terms_findings_sublist (table : TermTable) (t : Threshold) :
    ((table.findings t).map Finding.term).Sublist table.keys := by
  rw [findings, OrderedTable.keys]
  induction table.entries with
  | nil => exact List.Sublist.refl _
  | cons e es ih =>
    cases hs : e.2.streak? t with
    | none =>
      rw [List.filterMap_cons_none (by simp only [hs, Option.map_none]), List.map_cons]
      exact ih.cons _
    | some b =>
      rw [List.filterMap_cons_some (by simp only [hs, Option.map_some]; rfl), List.map_cons,
        List.map_cons]
      exact ih.cons_cons _

/-- No term is ranked twice. -/
theorem nodup_terms_ranking (table : TermTable) (t : Threshold) :
    ((table.ranking t).map Finding.term).Nodup :=
  ((ranking_perm table t).map Finding.term).nodup_iff.2
    ((OrderedTable.nodup_keys table).sublist (terms_findings_sublist table t))

end TermTable
end ShareStreaks
