import Mathlib.Algebra.BigOperators.Group.List.Basic
import Mathlib.Algebra.GroupWithZero.Nat
import ShareStreaks.Proofs.Selection.Redundant

/-!
# Looking up the findings of a threshold

`findingsFor` answers with the first outcome whose threshold asks for the same, the two zeros being one
share.  So where several thresholds of a list ask for the same, the findings of all but the first cannot
be looked up.  After a run nothing is hidden by this (`Selection.findingsFor_run`): thresholds that ask
for the same are met by the same terms, and all of these go to the first.

That the findings looked up are all there are goes by induction on the outcomes.  An outcome adds its
findings to those of the threshold that asks for the same, for which the later outcomes have none
(`length_findingsFor_cons`); and of thresholds that all ask for something else, this is one
(`sum_of_same`).
-/

set_option autoImplicit false

namespace ShareStreaks

/-! ## Thresholds that ask for the same -/

namespace Threshold

variable {a b c : Threshold}

/-- Thresholds that ask for the same cover each other. -/
theorem same_iff : a.same b = true ↔ a.covers b = true ∧ b.covers a = true := by
  rw [same, Binary64.sameNumber, covers_iff, covers_iff, Bool.and_eq_true, Bool.and_eq_true,
    decide_eq_true_eq, decide_eq_true_eq, beq_iff_eq]
  constructor
  · rintro ⟨⟨hle, hge⟩, hyears⟩
    exact ⟨⟨hle, Nat.le_of_eq hyears⟩, hge, Nat.le_of_eq hyears.symm⟩
  · rintro ⟨⟨hle, hyears⟩, hge, hyears'⟩
    exact ⟨⟨hle, hge⟩, Nat.le_antisymm hyears hyears'⟩

theorem same_refl (a : Threshold) : a.same a = true := same_iff.2 ⟨a.covers_refl, a.covers_refl⟩

theorem same_symm (h : a.same b = true) : b.same a = true := same_iff.2 (same_iff.1 h).symm

theorem same_trans (hab : a.same b = true) (hbc : b.same c = true) : a.same c = true := by
  obtain ⟨hab, hba⟩ := same_iff.1 hab
  obtain ⟨hbc, hcb⟩ := same_iff.1 hbc
  exact same_iff.2 ⟨covers_trans hab hbc, covers_trans hcb hba⟩

end Threshold

/-! ## Outcomes -/

section outcomes

variable {o : Outcome} {os : List Outcome} {t u : Threshold}

theorem findingsFor_cons_of_same (h : o.threshold.same u = true) :
    findingsFor (o :: os) u = some o.findings := by
  simp only [findingsFor, List.find?_cons, h, Option.map_some]

theorem findingsFor_cons_of_not_same (h : o.threshold.same u = false) :
    findingsFor (o :: os) u = findingsFor os u := by
  simp only [findingsFor, List.find?_cons, h]

/-- Nothing is found if all outcomes that could be found are empty. -/
theorem getD_findingsFor_eq_nil (h : ∀ o ∈ os, o.threshold.same u = true → o.findings = []) :
    (findingsFor os u).getD [] = [] := by
  rw [findingsFor]
  cases hfind : os.find? fun o => o.threshold.same u with
  | none => rfl
  | some o =>
    have hsame := List.find?_some hfind
    exact h o (List.mem_of_find?_eq_some hfind) hsame

/-- **What one outcome adds** to what is found, if the later ones of the same threshold are empty. -/
theorem length_findingsFor_cons
    (h : ∀ o' ∈ os, o.threshold.same o'.threshold = true → o'.findings = []) :
    ((findingsFor (o :: os) u).getD []).length =
      (if o.threshold.same u = true then o.findings.length else 0) +
        ((findingsFor os u).getD []).length := by
  split
  · rename_i hsame
    have hlater : (findingsFor os u).getD [] = [] :=
      getD_findingsFor_eq_nil fun o' ho' hsame' =>
        h o' ho' (Threshold.same_trans hsame (Threshold.same_symm hsame'))
    rw [findingsFor_cons_of_same hsame, hlater, Option.getD_some, List.length_nil, Nat.add_zero]
  · rename_i hsame
    rw [findingsFor_cons_of_not_same (Bool.eq_false_iff.2 hsame), Nat.zero_add]

/-- Of thresholds that all ask for something else, only one asks for the same as a given one. -/
theorem sum_of_same {us : List Threshold} (hus : us.Pairwise fun a b => a.same b = false)
    (h : ∃ u ∈ us, u.same t = true) (n : Nat) :
    (us.map fun u => if t.same u = true then n else 0).sum = n := by
  induction us with
  | nil => exact absurd h (by simp)
  | cons u us ih =>
    obtain ⟨hu, hus⟩ := List.pairwise_cons.1 hus
    rw [List.map_cons, List.sum_cons]
    by_cases hsame : t.same u = true
    · have hothers : ∀ m ∈ us.map fun u => if t.same u = true then n else 0, m = 0 := by
        refine List.forall_mem_map.2 fun u' hu' => if_neg fun hsame' => ?_
        exact Bool.eq_false_iff.1 (hu u' hu')
          (Threshold.same_trans (Threshold.same_symm hsame) hsame')
      rw [if_pos hsame, List.sum_eq_zero hothers, Nat.add_zero]
    · rw [if_neg hsame, Nat.zero_add]
      refine ih hus ?_
      obtain ⟨u', hu', hsame'⟩ := h
      rcases List.mem_cons.1 hu' with rfl | hu'
      · exact absurd (Threshold.same_symm hsame') hsame
      · exact ⟨u', hu', hsame'⟩

/-- **What is found for thresholds that all ask for something else is everything**, if each outcome has
its threshold among them and the later ones of a threshold are empty. -/
theorem sum_findingsFor {us : List Threshold}
    (hos : os.Pairwise fun a b => a.threshold.same b.threshold = true → b.findings = [])
    (hus : us.Pairwise fun a b => a.same b = false)
    (h : ∀ o ∈ os, ∃ u ∈ us, u.same o.threshold = true) :
    (us.map fun u => ((findingsFor os u).getD []).length).sum = totalFindings os := by
  induction os with
  | nil => exact List.sum_eq_zero (List.forall_mem_map.2 fun _ _ => rfl)
  | cons o os ih =>
    obtain ⟨ho, hos⟩ := List.pairwise_cons.1 hos
    obtain ⟨hhead, htail⟩ := List.forall_mem_cons.1 h
    simp only [length_findingsFor_cons ho]
    rw [List.sum_map_add, sum_of_same hus hhead, ih hos htail, totalFindings, totalFindings,
      List.flatMap_cons, List.length_append]

end outcomes

/-! ## Runs -/

namespace Selection

variable (table : TermTable) (ts : List Threshold)

/-- Thresholds that ask for the same are met by the same terms, so that only the first gets any. -/
theorem pairwise_same_run :
    (run table ts).outcomes.Pairwise fun a b =>
      a.threshold.same b.threshold = true → b.findings = [] :=
  (pairwise_meets_run table ts).imp fun h hsame =>
    h fun _ => Threshold.covers_meets (Threshold.same_iff.1 hsame).1

/-- The outcome found is that of the first threshold that asks for the same. -/
theorem findingsFor_run_eq (t : Threshold) :
    findingsFor (run table ts).outcomes t =
      (run table ts).outcomes[ts.findIdx fun e => e.same t]?.map Outcome.findings := by
  have hindex : (run table ts).outcomes.findIdx (fun o => o.threshold.same t) =
      ts.findIdx fun e => e.same t := by
    conv_rhs => rw [← map_threshold_run table ts, List.findIdx_map]
    rfl
  rw [findingsFor, List.find?_eq_getElem?_findIdx, hindex]

variable {ts}

/-- So it is found at the place of the first threshold that asks for the same. -/
theorem exists_findingsFor_run (table : TermTable) {t e : Threshold} {i : Nat} (he : ts[i]? = some e)
    (hsame : e.same t = true) (hfirst : ∀ e' ∈ ts.take i, e'.same t = false) :
    ∃ o, (run table ts).outcomes[i]? = some o ∧
      findingsFor (run table ts).outcomes t = some o.findings := by
  obtain ⟨hi, he'⟩ := List.getElem?_eq_some_iff.1 he
  have hindex : (ts.findIdx fun e => e.same t) = i := by
    refine (List.findIdx_eq hi).2 ⟨he' ▸ hsame, fun j hj => hfirst _ ?_⟩
    exact List.mem_take_iff_getElem.2 ⟨j, by omega, rfl⟩
  have ho := getElem?_run_of_eq_some table ts he
  exact ⟨_, ho, by rw [findingsFor_run_eq, hindex, ho, Option.map_some]⟩

/-- A threshold of the list that asks for the same has a first one, at its place or before. -/
theorem exists_first_same {t e : Threshold} {i : Nat} (he : ts[i]? = some e)
    (hsame : e.same t = true) :
    ∃ j ≤ i, ∃ e', ts[j]? = some e' ∧ e'.same t = true ∧ ∀ e'' ∈ ts.take j, e''.same t = false := by
  obtain ⟨hi, he'⟩ := List.getElem?_eq_some_iff.1 he
  have hlt : (ts.findIdx fun e => e.same t) < ts.length :=
    List.findIdx_lt_length.2 ⟨e, List.mem_of_getElem? he, hsame⟩
  refine ⟨ts.findIdx fun e => e.same t, Nat.le_of_not_lt fun h => ?_, _,
    List.getElem?_eq_getElem hlt, List.findIdx_getElem (p := fun e : Threshold => e.same t),
    fun e'' he'' => ?_⟩
  · have hnot := List.not_of_lt_findIdx h
    rw [he', hsame] at hnot
    exact Bool.noConfusion hnot
  · obtain ⟨k, hk, rfl⟩ := List.mem_take_iff_getElem.1 he''
    exact List.not_of_lt_findIdx (p := fun e : Threshold => e.same t)
      (Nat.lt_of_lt_of_le hk (Nat.min_le_left _ _))

/-- **Looking up by threshold hides no findings of a run.**  For a threshold of the list, the findings of
its own outcome are found, unless an earlier one asks for the same; then its own outcome is empty, and
the findings of the first that asks for the same are found.  For a threshold that asks for something
else than all of the list, nothing is found.  If one threshold is taken for each that is asked for, the
findings looked up for them are as many as there are in all. -/
theorem findingsFor_run (table : TermTable) (ts : List Threshold) :
    let outcomes := (run table ts).outcomes
    (∀ i t, ts[i]? = some t → (∀ e ∈ ts.take i, e.same t = false) →
      ∃ o, outcomes[i]? = some o ∧ findingsFor outcomes t = some o.findings) ∧
    (∀ i t, ts[i]? = some t → (∃ e ∈ ts.take i, e.same t = true) →
      (∃ o, outcomes[i]? = some o ∧ o.findings = []) ∧
      ∃ j < i, ∃ e o, ts[j]? = some e ∧ e.same t = true ∧
        (∀ e' ∈ ts.take j, e'.same t = false) ∧
        outcomes[j]? = some o ∧ findingsFor outcomes t = some o.findings) ∧
    (∀ t, (∀ e ∈ ts, e.same t = false) → findingsFor outcomes t = none) ∧
    ∀ us : List Threshold, us.Pairwise (fun a b => a.same b = false) →
      (∀ t ∈ ts, ∃ u ∈ us, u.same t = true) →
      (us.map fun u => ((findingsFor outcomes u).getD []).length).sum = totalFindings outcomes := by
  intro outcomes
  refine ⟨fun i t ht hfirst => exists_findingsFor_run table ht t.same_refl hfirst,
    fun i t ht hearlier => ⟨?_, ?_⟩, fun t hnone => ?_, fun us hus hall => ?_⟩
  · obtain ⟨e, he, hsame⟩ := hearlier
    refine ⟨_, getElem?_run_of_eq_some table ts ht, ?_⟩
    exact TermTable.remaining_eq_nil ⟨e, he, (Threshold.same_iff.1 hsame).1⟩
  · obtain ⟨e, he, hsame⟩ := hearlier
    obtain ⟨k, hk, hke⟩ := List.mem_take_iff_getElem.1 he
    obtain ⟨j, hj, e', he', hsame', hfirst⟩ :=
      exists_first_same (List.getElem?_eq_some_iff.2 ⟨by omega, hke⟩) hsame
    obtain ⟨o, ho, hfound⟩ := exists_findingsFor_run table he' hsame' hfirst
    exact ⟨j, by omega, e', o, he', hsame', hfirst, ho, hfound⟩
  · rw [findingsFor_run_eq, List.findIdx_eq_length_of_false hnone, getElem?_run,
      List.getElem?_eq_none (Nat.le_refl _), Option.map_none, Option.map_none]
  · refine sum_findingsFor (pairwise_same_run table ts) hus fun o ho => ?_
    exact hall o.threshold (mem_thresholds_run table ts ho)

/-- A negative zero after a positive one: what is found for it was given to the other. -/
theorem findingsFor_run_zeros :
    let half : Binary64 := .ofBits 0x3FE0000000000000
    let high : Threshold := ⟨half, 1, by decide, by decide, by decide⟩
    let positive : Threshold := ⟨.zero, 1, by decide, by decide, by decide⟩
    let negative : Threshold := ⟨Binary64.zero.negated, 1, by decide, by decide, by decide⟩
    let ts := [high, positive, negative]
    let table : TermTable := ⟨[("a", ⟨[(2016, half)], by decide⟩), ("b", ⟨[(2016, .zero)], by decide⟩)],
      by decide⟩
    let outcomes := (run table ts).outcomes
    ts[2]? = some negative ∧ (∃ e ∈ ts.take 2, e.same negative = true) ∧
      (∃ o, outcomes[2]? = some o ∧ o.findings = []) ∧
      findingsFor outcomes negative = some [⟨"b", ⟨.zero, .zero⟩⟩] ∧
      ts[0]? = some high ∧ (∀ e ∈ ts.take 0, e.same high = false) ∧
      (∃ o, outcomes[0]? = some o ∧ findingsFor outcomes high = some o.findings) ∧
      [high, negative].Pairwise (fun a b => a.same b = false) ∧
      (∀ t ∈ ts, ∃ u ∈ [high, negative], u.same t = true) ∧
      ([high, negative].map fun u => ((findingsFor outcomes u).getD []).length).sum = 2 := by
  intro half high positive negative ts table outcomes
  have houtcomes : outcomes =
      [⟨high, [⟨"a", ⟨half, half⟩⟩]⟩, ⟨positive, [⟨"b", ⟨.zero, .zero⟩⟩]⟩, ⟨negative, []⟩] := by
    have hhigh : table.ranking high = [⟨"a", ⟨half, half⟩⟩] :=
      (TermTable.ranking_eq_findings (by decide)).trans (by decide)
    have hall : ∀ t ∈ [positive, negative],
        table.ranking t = [⟨"a", ⟨half, half⟩⟩, ⟨"b", ⟨.zero, .zero⟩⟩] := by
      simp only [List.forall_mem_cons]
      exact ⟨(TermTable.ranking_eq_findings (by decide)).trans (by decide),
        (TermTable.ranking_eq_findings (by decide)).trans (by decide), List.forall_mem_nil _⟩
    simp only [outcomes, ts, run, runFrom, hhigh, hall positive (by decide), hall negative (by decide)]
    decide
  have hsame : ∃ e ∈ ts.take 2, e.same negative = true := ⟨positive, by decide, by decide⟩
  have hpairwise : [high, negative].Pairwise (fun a b => a.same b = false) := by decide
  have hasked : ∀ t ∈ ts, ∃ u ∈ [high, negative], u.same t = true := by decide
  have hfound : findingsFor outcomes negative = some [⟨"b", ⟨.zero, .zero⟩⟩] := by
    rw [houtcomes]
    decide
  have htotal : totalFindings outcomes = 2 := by
    rw [houtcomes]
    rfl
  obtain ⟨hfirst, hlater, -, hsum⟩ := findingsFor_run table ts
  exact ⟨rfl, hsame, (hlater 2 negative rfl hsame).1, hfound, rfl, List.forall_mem_nil _,
    hfirst 0 high rfl (List.forall_mem_nil _), hpairwise, hasked,
    (hsum _ hpairwise hasked).trans htotal⟩

end Selection
end ShareStreaks
