import ShareStreaks.Proofs.Selection.FirstMet
import ShareStreaks.Proofs.Streak.Order
import ShareStreaks.Proofs.Streak.Window
import ShareStreaks.Proofs.TermTable

/-!
# Later data

A table goes on where another one ends if it has all the points of the other, and the points that it
has besides come after the last year that the other has for their term (`TermTable.Continues`); about
terms that the other has no point of, nothing is asked.

The shares of a term are then those it had before with some more behind them
(`OrderedTable.entries_eq_append`).  A scan stops as soon as a streak is long enough, so it does not get
to see these, and finds what it found before (`streakFrom_append`).  More terms may meet a threshold
than before, but those that did are ranked with the same bounds and in the same order; and a term that
was given out can only be given out sooner (`Selection.run_of_continues`).
-/

set_option autoImplicit false

namespace ShareStreaks

/-! ## Tables that go on -/

/-- The table has all the points of the other one, and its further points for a term come after the
last year that the other one has for this term. -/
structure TermTable.Continues (later earlier : TermTable) : Prop where
  kept : ∀ term year share, earlier.point? term year = some share →
    later.point? term year = some share
  after : ∀ term year share, later.point? term year = some share →
    earlier.point? term year = none →
      ∀ year' share', earlier.point? term year' = some share' → year' < year

section Entries

variable {κ ν : Type} [LT κ] [LE κ] [Std.LawfulOrderLT κ] [Std.IsLinearOrder κ] [DecidableLT κ]

/-- Entries with greater keys stand behind those that were there. -/
theorem OrderedTable.entries_eq_append {s t : OrderedTable κ ν}
    (kept : ∀ k v, s.find? k = some v → t.find? k = some v)
    (after : ∀ k v, t.find? k = some v → s.find? k = none →
      ∀ j w, s.find? j = some w → j < k) :
    ∃ new, t.entries = s.entries ++ new := by
  have : Std.Irrefl fun a b : κ × ν => a.1 < b.1 := ⟨fun _ => Std.lt_irrefl⟩
  have : Std.Antisymm fun a b : κ × ν => a.1 < b.1 :=
    ⟨fun _ _ hab hba => absurd (Std.lt_trans hab hba) Std.lt_irrefl⟩
  refine ⟨t.entries.filter fun e => (s.find? e.1).isNone, ?_⟩
  refine List.Pairwise.eq_of_mem_iff t.ascending ?_ ?_
  · rw [List.pairwise_append]
    refine ⟨s.ascending, t.ascending.filter _, ?_⟩
    intro a ha b hb
    obtain ⟨hmem, hnone⟩ := List.mem_filter.1 hb
    exact after b.1 b.2 (find?_eq_some_iff.2 hmem) (Option.isNone_iff_eq_none.1 hnone) a.1 a.2
      (find?_eq_some_iff.2 ha)
  · intro e
    rw [List.mem_append, List.mem_filter]
    constructor
    · intro hmem
      cases hfind : s.find? e.1 with
      | none => exact Or.inr ⟨hmem, rfl⟩
      | some v =>
        have hv := kept e.1 v hfind
        rw [find?_eq_some_iff.2 hmem, Option.some_inj] at hv
        rw [← hv] at hfind
        exact Or.inl (find?_eq_some_iff.1 hfind)
    · rintro (hmem | hmem)
      · exact find?_eq_some_iff.1 (kept e.1 e.2 (find?_eq_some_iff.2 hmem))
      · exact hmem.1

end Entries

namespace TermTable

variable {s s' : TermTable} {term : String} {shares : YearShares}

theorem point?_of_find? (h : s.find? term = some shares) (year : Int) :
    s.point? term year = shares.find? year := by
  rw [point?, h, Option.bind_some]

/-- One point more, in a year after those that the term has. -/
theorem continues_record (p : Point)
    (h : ∀ year share, s.point? p.term year = some share → year < p.year) :
    (s.record p.term p.year p.share).Continues s := by
  constructor
  · intro term year share hpoint
    rw [point?_record, Point.shareAt?, if_neg, Option.none_or, hpoint]
    rintro ⟨rfl, rfl⟩
    exact Int.lt_irrefl _ (h _ share hpoint)
  · intro term year share hpoint hnone year' share' hpoint'
    rw [point?_record, hnone, Option.or_none, Point.shareAt?, Option.ite_none_right_eq_some]
      at hpoint
    obtain ⟨⟨rfl, rfl⟩, -⟩ := hpoint
    exact h year' share' hpoint'

namespace Continues

theorem trans {s'' : TermTable} (h' : s''.Continues s') (h : s'.Continues s) :
    s''.Continues s := by
  constructor
  · intro term year share hpoint
    exact h'.kept _ _ _ (h.kept _ _ _ hpoint)
  · intro term year share hpoint hnone year' share' hpoint'
    cases hmiddle : s'.point? term year with
    | none => exact h'.after _ _ _ hpoint hmiddle _ _ (h.kept _ _ _ hpoint')
    | some share'' => exact h.after _ _ _ hmiddle hnone _ _ hpoint'

/-- A term that had a point is still there, with more shares behind those it had. -/
theorem values_eq_append (h : s'.Continues s) (hfind : s.find? term = some shares)
    (hne : shares.values ≠ []) :
    ∃ shares' more, s'.find? term = some shares' ∧ shares'.values = shares.values ++ more := by
  have hentries : shares.entries ≠ [] := by
    intro hnil
    exact hne (by rw [YearShares.values, hnil, List.map_nil])
  obtain ⟨⟨year, share⟩, es, hcons⟩ := List.exists_cons_of_ne_nil hentries
  have hpoint : s.point? term year = some share := by
    rw [point?_of_find? hfind, OrderedTable.find?_eq_some_iff, hcons]
    exact List.mem_cons_self ..
  obtain ⟨shares', hfind', -⟩ := Option.bind_eq_some_iff.1 (h.kept _ _ _ hpoint)
  have hkept := h.kept term
  have hafter := h.after term
  simp only [point?_of_find? hfind, point?_of_find? hfind'] at hkept hafter
  obtain ⟨new, hnew⟩ := OrderedTable.entries_eq_append hkept hafter
  refine ⟨shares', new.map Prod.snd, hfind', ?_⟩
  rw [YearShares.values, hnew, List.map_append]
  rfl

variable {t : Threshold}

/-- A streak that was found is found again, with the same bounds. -/
theorem streak?_eq_some (h : s'.Continues s) {b : Bounds} (hfind : s.find? term = some shares)
    (hb : shares.streak? t = some b) :
    ∃ shares', s'.find? term = some shares' ∧ shares'.streak? t = some b := by
  have hne : shares.values ≠ [] := by
    intro hnil
    rw [YearShares.streak?, hnil, streakFrom] at hb
    exact absurd hb (by simp)
  obtain ⟨shares', more, hfind', hvalues⟩ := h.values_eq_append hfind hne
  refine ⟨shares', hfind', ?_⟩
  rw [YearShares.streak?, hvalues]
  exact streakFrom_append hb more

theorem ranking_subset (h : s'.Continues s) (t : Threshold) : s.ranking t ⊆ s'.ranking t := by
  intro f hf
  obtain ⟨shares, hfind, hb⟩ := mem_ranking.1 hf
  exact mem_ranking.2 (h.streak?_eq_some hfind hb)

theorem meets (h : s'.Continues s) (hmeets : s.meets t term = true) : s'.meets t term = true := by
  obtain ⟨shares, b, hfind, hb⟩ := meets_iff.1 hmeets
  obtain ⟨shares', hfind', hb'⟩ := h.streak?_eq_some hfind hb
  exact meets_iff.2 ⟨shares', b, hfind', hb'⟩

end Continues

/-- A term has one finding in a ranking. -/
theorem eq_of_mem_ranking {t : Threshold} {f g : Finding} (hf : f ∈ s.ranking t)
    (hg : g ∈ s.ranking t) (hterm : f.term = g.term) : f = g :=
  List.inj_on_of_nodup_map (nodup_terms_ranking s t) hf hg hterm

end TermTable

/-! ## Runs -/

namespace Selection

variable {table : TermTable} {ts : List Threshold}

/-- A term is given to the first threshold that it meets. -/
theorem exists_first_run {i : Nat} {t : Threshold} {term : String} (ht : ts[i]? = some t)
    (hmeets : table.meets t term = true) :
    ∃ j ≤ i, ∃ (o : Outcome) (f : Finding),
      (run table ts).outcomes[j]? = some o ∧ f ∈ o.findings ∧ f.term = term := by
  induction i using Nat.strongRecOn generalizing t with
  | ind i ih =>
    by_cases hearlier : ∃ e ∈ ts.take i, table.meets e term = true
    · obtain ⟨e, he, hmeets'⟩ := hearlier
      obtain ⟨k, hk⟩ := List.getElem?_of_mem he
      have hki : k < i := by
        have hlt := (List.getElem?_eq_some_iff.1 hk).1
        rw [List.length_take] at hlt
        omega
      rw [List.getElem?_take_of_lt hki] at hk
      obtain ⟨j, hj, hfirst⟩ := ih k hki hk hmeets'
      exact ⟨j, by omega, hfirst⟩
    · have hterm : term ∈ (table.remaining (ts.take i) t).map Finding.term := by
        refine TermTable.mem_terms_remaining.2 ⟨hmeets, fun e he => ?_⟩
        rw [← Bool.not_eq_true]
        exact fun hmeets' => hearlier ⟨e, he, hmeets'⟩
      obtain ⟨f, hf, hfterm⟩ := List.mem_map.1 hterm
      refine ⟨i, Nat.le_refl i, Outcome.mk t (table.remaining (ts.take i) t), f, ?_, hf, hfterm⟩
      rw [getElem?_run, ht, Option.map_some]

theorem mem_ranking_of_run {i : Nat} {o : Outcome} {f : Finding}
    (ho : (run table ts).outcomes[i]? = some o) (hf : f ∈ o.findings) :
    ts[i]? = some o.threshold ∧ f ∈ table.ranking o.threshold := by
  rw [getElem?_run] at ho
  obtain ⟨t, ht, rfl⟩ := Option.map_eq_some_iff.1 ho
  exact ⟨ht, List.mem_of_mem_filter hf⟩

/-- **Later data takes nothing back.**  If a table goes on where another one ends, then the ranking of
a threshold holds all the findings that it held before, with the same bounds and in the same order.
And a term that one of several thresholds was given before is given to this one or an earlier one; if
it is the same one, then with the same bounds. -/
theorem run_of_continues {later earlier : TermTable} (h : later.Continues earlier) :
    (∀ t, (earlier.ranking t).Sublist (later.ranking t)) ∧
    ∀ (ts : List Threshold) (i : Nat) (o : Outcome) (f : Finding),
      (run earlier ts).outcomes[i]? = some o → f ∈ o.findings →
      ∃ j ≤ i, ∃ (o' : Outcome) (f' : Finding),
        (run later ts).outcomes[j]? = some o' ∧ f' ∈ o'.findings ∧
          f'.term = f.term ∧ (j = i → f' = f) := by
  refine ⟨fun t => TermTable.ranking_sublist (h.ranking_subset t), ?_⟩
  intro ts i o f ho hf
  obtain ⟨ht, hranked⟩ := mem_ranking_of_run ho hf
  have hranked' := h.ranking_subset o.threshold hranked
  have hmeets : later.meets o.threshold f.term = true :=
    TermTable.mem_terms_ranking.1 (List.mem_map_of_mem hranked')
  obtain ⟨j, hj, o', f', ho', hf', hterm⟩ := exists_first_run ht hmeets
  refine ⟨j, hj, o', f', ho', hf', hterm, ?_⟩
  rintro rfl
  obtain ⟨ht', hranked''⟩ := mem_ranking_of_run ho' hf'
  rw [ht, Option.some_inj] at ht'
  rw [← ht'] at hranked''
  exact TermTable.eq_of_mem_ranking hranked'' hranked' hterm

/-- A term of the more lenient threshold gets a year that is high enough for the stricter one, and a
term that was not there gets an early year. -/
theorem run_of_continues_next_year :
    let low : Binary64 := .ofBits 0x3FB0000000000000
    let high : Binary64 := .ofBits 0x3FC0000000000000
    let strict : Threshold := ⟨high, 2, by decide, by decide, by decide⟩
    let lenient : Threshold := ⟨low, 2, by decide, by decide, by decide⟩
    let earlier : TermTable := ⟨[("a", ⟨[(2019, high), (2020, high)], by decide⟩),
      ("b", ⟨[(2019, low), (2020, high)], by decide⟩)], by decide⟩
    let later := (earlier.record "b" 2021 high).record "c" 2000 low
    later.Continues earlier ∧ (earlier.ranking lenient).Sublist (later.ranking lenient) ∧
    (run earlier [strict, lenient]).outcomes[1]? = some ⟨lenient, [⟨"b", ⟨low, high⟩⟩]⟩ ∧
    ∃ j ≤ 1, ∃ (o' : Outcome) (f' : Finding),
      (run later [strict, lenient]).outcomes[j]? = some o' ∧ f' ∈ o'.findings ∧
        f'.term = "b" ∧ (j = 1 → f' = ⟨"b", ⟨low, high⟩⟩) := by
  intro low high strict lenient earlier later
  have hb : (earlier.record "b" 2021 high).Continues earlier := by
    have hfind : earlier.find? "b" = some ⟨[(2019, low), (2020, high)], by decide⟩ :=
      OrderedTable.find?_eq_some_iff.2 (List.mem_cons_of_mem _ (List.mem_singleton.2 rfl))
    refine TermTable.continues_record ⟨"b", 2021, high⟩ fun year share hpoint => ?_
    rw [TermTable.point?_of_find? hfind, OrderedTable.find?_eq_some_iff] at hpoint
    simp only [List.mem_cons, Prod.mk.injEq, List.not_mem_nil, or_false] at hpoint
    show year < 2021
    omega
  have hc : later.Continues (earlier.record "b" 2021 high) := by
    have hfind : (earlier.record "b" 2021 high).find? "c" = none := by decide
    refine TermTable.continues_record ⟨"c", 2000, low⟩ fun year share hpoint => ?_
    rw [TermTable.point?, hfind, Option.bind_none] at hpoint
    cases hpoint
  have hcontinues := hc.trans hb
  have houtcome : (run earlier [strict, lenient]).outcomes[1]? =
      some ⟨lenient, [⟨"b", ⟨low, high⟩⟩]⟩ := by
    have hlenient : earlier.ranking lenient = [⟨"a", ⟨high, high⟩⟩, ⟨"b", ⟨low, high⟩⟩] :=
      (TermTable.ranking_eq_findings (by decide)).trans (by decide)
    simp only [getElem?_run, TermTable.remaining, List.getElem?_cons_succ,
      List.getElem?_cons_zero, Option.map_some, hlenient]
    decide
  obtain ⟨hranking, hclaimed⟩ := run_of_continues hcontinues
  exact ⟨hcontinues, hranking lenient, houtcome,
    hclaimed _ 1 _ ⟨"b", ⟨low, high⟩⟩ houtcome (List.mem_singleton.2 rfl)⟩

end Selection
end ShareStreaks
